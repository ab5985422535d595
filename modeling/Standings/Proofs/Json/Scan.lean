import Mathlib.Data.List.Chain
import Mathlib.Data.List.TakeWhile
import Standings.Json.Token
import Standings.Proofs.Decimal

/-!
# Tokens are scanned back

The text of a list of tokens is cut into these tokens again, as long as no two words of it touch. A
word (a number or a keyword) ends where a character stands that cannot go on with it; every other
token ends by itself. Strings are read back character by character: `escape` writes what the machine
undoes, in one of three ways.

## Key results

- `Mode.read_escape`: an escaped character is read as one piece of a string
- `read_write`: the text of a token in front of other text
- `read_flatMap_write`: the text of a list of tokens
-/

namespace Standings.Json.Token

namespace Mode

/-- Takes the characters of a text to their end. -/
def read (mode : Mode) (text : List Char) : Option (List Token) :=
  mode.run (text.map some)

theorem read_cons (mode : Mode) (c : Char) (rest : List Char) :
    mode.read (c :: rest) =
      (mode.step c).bind fun (tokens, next) => (next.read rest).map (tokens ++ ·) := by
  simp only [read, List.map_cons, run, bind]
  cases mode.step c with
  | none => rfl
  | some taken =>
    simp only [Option.bind_some]
    cases run taken.2 (rest.map some) <;> rfl

/-- A character that ends no token changes only what the machine is in the middle of. -/
theorem read_of_step {mode next : Mode} {c : Char} (h : mode.step c = some ([], next))
    (rest : List Char) : mode.read (c :: rest) = next.read rest := by
  rw [read_cons, h, Option.bind_some]
  exact Option.map_id'

/-- A character that ends a token adds it in front of the later ones. -/
theorem read_of_step_token {mode next : Mode} {c : Char} {token : Token}
    (h : mode.step c = some ([token], next)) (rest : List Char) :
    mode.read (c :: rest) = (next.read rest).map (token :: ·) := by
  rw [read_cons, h, Option.bind_some]
  rfl

/-- A word is over where a character cannot go on with it. That character is then taken as if the
machine were between tokens. -/
theorem read_of_step_eq_finishAt {mode : Mode} {c : Char} {token : Token}
    (h : mode.step c = finishAt (some token) c) (rest : List Char) :
    mode.read (c :: rest) = (between.read (c :: rest)).map (token :: ·) := by
  have hbetween : between.step c = start c := rfl
  rw [read_cons, read_cons, h, hbetween]
  -- Where the character starts no token both sides have failed.
  cases hstart : start c with
  | none => simp [finishAt, hstart]
  | some taken => simp [finishAt, hstart, Function.comp_def]

/-! ## Strings -/

/-- The control characters that have a letter to escape them with. -/
def lettered : List Char := ['\x08', '\x0c', '\n', '\r', '\t']

/-- The piece of a string as which a written character is read. -/
def piece (c : Char) : Piece :=
  if c < ' ' ∧ c ∉ lettered then .unit c.toNat else .char c

/-- A number below 32 is written with four digits, which are read as a unit. -/
private theorem read_unit (pieces : List Piece) {n : Nat} (hn : n < 32) (rest : List Char) :
    (text pieces).read
        ('\\' :: 'u' :: '0' :: '0' :: (n / 16).digitChar :: (n % 16).digitChar :: rest) =
      (text (.unit n :: pieces)).read rest := by
  -- Six steps: the backslash, the letter and four digits, of which the last two name the number.
  have hdigit : ∀ d < 16, Hex.digit? d.digitChar = some d := by decide
  have hbackslash : (text pieces).step '\\' = some ([], escape pieces) := rfl
  have hletter : (escape pieces).step 'u' = some ([], unit pieces 3 0) := rfl
  have hfirst : (unit pieces 3 0).step '0' = some ([], unit pieces 2 0) := rfl
  have hsecond : (unit pieces 2 0).step '0' = some ([], unit pieces 1 0) := rfl
  have hthird : (unit pieces 1 0).step (n / 16).digitChar = some ([], unit pieces 0 (n / 16)) := by
    simp only [step, hdigit _ (show n / 16 < 16 by omega), bind, Option.bind_some]
    rw [Nat.mul_zero, Nat.zero_add]
    rfl
  have hlast : (unit pieces 0 (n / 16)).step (n % 16).digitChar =
      some ([], text (.unit n :: pieces)) := by
    simp only [step, hdigit _ (show n % 16 < 16 by omega), bind, Option.bind_some]
    rw [Nat.div_add_mod]
    rfl
  rw [read_of_step hbackslash, read_of_step hletter, read_of_step hfirst, read_of_step hsecond,
    read_of_step hthird, read_of_step hlast]

/-- A character is written so that it is read as one piece. -/
theorem read_escape (pieces : List Piece) (c : Char) (rest : List Char) :
    (text pieces).read (Token.escape c ++ rest) = (text (piece c :: pieces)).read rest := by
  have hletter : ∀ letter, unescape? letter = some c ∧ letter ≠ 'u' → ¬(c < ' ' ∧ c ∉ lettered) →
      (text pieces).read ('\\' :: letter :: rest) = (text (piece c :: pieces)).read rest := by
    rintro letter ⟨hletter, hne⟩ hpiece
    have hbackslash : (text pieces).step '\\' = some ([], escape pieces) := rfl
    have hstep : (escape pieces).step letter = some ([], text (.char c :: pieces)) := by
      simp only [step, if_neg hne, hletter, Option.map_some]
    rw [read_of_step hbackslash, read_of_step hstep, piece, if_neg hpiece]
  by_cases hletters : c ∈ '"' :: '\\' :: lettered
  · -- There is a letter for it, other than the one in front of four digits.
    simp only [lettered, List.mem_cons, List.not_mem_nil, or_false] at hletters
    rcases hletters with rfl | rfl | rfl | rfl | rfl | rfl | rfl <;>
      exact hletter _ (by decide) (by decide)
  · have hnot : c ∉ lettered := fun h => hletters (by simp [h])
    simp only [lettered, List.mem_cons, List.not_mem_nil, or_false, not_or] at hletters
    obtain ⟨hquote, hbackslash, hb, hf, hn, hr, ht⟩ := hletters
    simp only [Token.escape, if_neg hquote, if_neg hbackslash, if_neg hb, if_neg hf, if_neg hn,
      if_neg hr, if_neg ht]
    split
    · next hcontrol =>
      -- The digits name the character's number.
      have hlt : c.toNat < 32 := hcontrol
      rw [piece, if_pos ⟨hcontrol, hnot⟩]
      exact read_unit pieces hlt rest
    · next hplain =>
      -- Any other character stands for itself.
      have hstep : (text pieces).step c = some ([], text (.char c :: pieces)) := by
        simp only [step, if_neg hquote, if_neg hbackslash, if_neg hplain]
      rw [List.singleton_append, read_of_step hstep, piece, if_neg fun h => hplain h.1]

/-- A unit that is no half of a pair is a character, whatever follows it. -/
theorem join_unit {n : Nat} (hhigh : isHigh n = false) (hlow : isLow n = false)
    (rest : List Piece) : join (.unit n :: rest) = (join rest).map (Char.ofNat n :: ·) := by
  cases rest with
  | nil => simp [join, hhigh, hlow]
  | cons next rest => cases next <;> simp [join, hhigh, hlow]

/-- The pieces of a written text stand for its characters. -/
theorem join_map_piece (chars : List Char) : join (chars.map piece) = .ok chars := by
  induction chars with
  | nil => rfl
  | cons c chars ih =>
    rw [List.map_cons, piece]
    split
    · next hcontrol =>
      have hlt : c.toNat < 32 := hcontrol.1
      -- Control characters are far below the numbers that come in pairs.
      have hhigh : isHigh c.toNat = false := by simp [isHigh]; omega
      have hlow : isLow c.toNat = false := by simp [isLow]; omega
      rw [join_unit hhigh hlow, ih, Char.ofNat_toNat]
      rfl
    · rw [join, ih]
      rfl

/-- The text between quotation marks is read as its pieces, last piece first. -/
theorem read_flatMap_escape (chars : List Char) (pieces : List Piece) (rest : List Char) :
    (text pieces).read (chars.flatMap Token.escape ++ rest) =
      (text ((chars.map piece).reverse ++ pieces)).read rest := by
  induction chars generalizing pieces with
  | nil => rfl
  | cons c chars ih =>
    rw [List.flatMap_cons, List.append_assoc, read_escape, ih, List.map_cons, List.reverse_cons,
      List.append_assoc]
    rfl

/-- A string is read back to its closing quotation mark. -/
theorem read_string (s : String) (rest : List Char) :
    between.read (Token.write (.string (.text s)) ++ rest) =
      (between.read rest).map (.string (.text s) :: ·) := by
  have hopen : between.step '"' = some ([], text []) := rfl
  -- Between the marks the machine collects pieces, and the closing mark puts them together.
  have hpieces : wording (s.toList.map piece) = .text s := by
    rw [wording, join_map_piece]
    exact congrArg Wording.text String.ofList_toList
  have hclose : (text (s.toList.map piece).reverse).step '"' =
      some ([.string (.text s)], between) := by
    rw [← hpieces, step, if_pos rfl, List.reverse_reverse]
  rw [Token.write, List.cons_append, List.cons_append, List.append_assoc, read_of_step hopen,
    read_flatMap_escape, List.append_nil, List.singleton_append, read_of_step_token hclose]

/-! ## Words -/

/-- Characters that a machine collects. -/
theorem read_append (mode : List Char → Mode) {chars : List Char}
    (hcollect : ∀ c ∈ chars, ∀ front, (mode front).step c = some ([], mode (c :: front)))
    (front rest : List Char) :
    (mode front).read (chars ++ rest) = (mode (chars.reverse ++ front)).read rest := by
  induction chars generalizing front with
  | nil => rfl
  | cons c chars ih =>
    rw [List.forall_mem_cons] at hcollect
    rw [List.cons_append, read_of_step (hcollect.1 front), ih hcollect.2, List.reverse_cons,
      List.append_assoc]
    rfl

/-- A machine that collects characters as long as `goesOn` holds reads a word up to the text behind
it, if no character of the word ends it and the first one behind it does. -/
theorem read_word (mode : List Char → Mode) (goesOn : Char → Bool)
    (token? : List Char → Option Token)
    (hstep : ∀ chars c, (mode chars).step c =
      if goesOn c then some ([], mode (c :: chars)) else finishAt (token? chars.reverse) c)
    (hfinish : ∀ chars, (mode chars).finish = (token? chars.reverse).map ([·]))
    {first : Char} {chars rest : List Char} {token : Token}
    (hfirst : start first = some ([], mode [first])) (hchars : ∀ c ∈ chars, goesOn c)
    (htoken : token? (first :: chars) = some token)
    (hrest : ∀ c ∈ rest.head?, goesOn c = false) :
    between.read (first :: chars ++ rest) = (between.read rest).map (token :: ·) := by
  have hopen : between.step first = some ([], mode [first]) := hfirst
  have hcollect : ∀ c ∈ chars, ∀ front, (mode front).step c = some ([], mode (c :: front)) :=
    fun c hc front => by rw [hstep, if_pos (hchars c hc)]
  have hall : (chars.reverse ++ [first]).reverse = first :: chars := by simp
  rw [List.cons_append, read_of_step hopen, read_append mode hcollect]
  cases rest with
  | nil =>
    -- The text ends with the word, which the machine finishes.
    have hend : (mode (chars.reverse ++ [first])).finish = some [token] := by
      rw [hfinish, hall, htoken]
      rfl
    exact hend
  | cons c rest =>
    -- The next character ends the word.
    apply read_of_step_eq_finishAt
    rw [hstep, hrest c rfl, hall, htoken]
    rfl

/-- No word goes on with this text: it is empty or starts with a character that is in no word. -/
def EndsWord (rest : List Char) : Prop :=
  ∀ c ∈ rest.head?, isNumeric c = false ∧ c.isLower = false

/-- A word that is a keyword is read as its token. -/
theorem read_keyword {first : Char} {letters rest : List Char} {token : Token}
    (hfirst : start first = some ([], keyword [first])) (hletters : letters.all Char.isLower)
    (htoken : ofKeyword? (first :: letters) = some token) (hrest : EndsWord rest) :
    between.read (first :: letters ++ rest) = (between.read rest).map (token :: ·) :=
  read_word keyword Char.isLower ofKeyword? (fun _ _ => rfl) (fun _ => rfl) hfirst
    (List.all_eq_true.1 hletters) htoken fun c hc => (hrest c hc).2

end Mode

/-- Written natural numbers have no leading zero. -/
theorem isPlain_ofNat (n : Nat) : isPlain (Decimal.ofNat n) := by
  rcases Nat.eq_zero_or_pos n with rfl | hn
  · decide
  · have hhead := Decimal.head?_ofNat_ne_zero hn
    unfold isPlain
    split
    · next h => exact absurd h Nat.toDigits_ne_nil
    · rfl
    · next h => simpa [h] using hhead

/-- The literal of an integer stands for it: it has no leading zero and is not minus zero. -/
theorem ofNumber?_ofInt (value : Int) :
    ofNumber? (Decimal.ofInt value) = some (.integer value) := by
  have htake (n : Nat) : (Decimal.ofNat n).takeWhile Char.isDigit = Decimal.ofNat n :=
    List.takeWhile_eq_self_iff.2 fun c hc => Decimal.isDigit_of_mem_ofNat hc
  have hdrop (n : Nat) : (Decimal.ofNat n).dropWhile Char.isDigit = [] :=
    List.dropWhile_eq_nil_iff.2 fun c hc => Decimal.isDigit_of_mem_ofNat hc
  have hvalue (n : Nat) : Nat.ofDigitChars 10 (Decimal.ofNat n) 0 = n :=
    Nat.ofDigitChars_ten_toDigits
  cases value with
  | ofNat n =>
    -- Digits have no sign in front of them that could be taken off.
    have hsign : ∀ rest, Decimal.ofNat n ≠ '-' :: rest := fun rest h =>
      absurd (Decimal.isDigit_of_mem_ofNat (h ▸ List.mem_cons_self)) (by decide)
    unfold ofNumber?
    rw [Decimal.ofInt]
    split
    next hmatch =>
    split at hmatch
    · next h => exact absurd h (hsign _)
    · cases hmatch
      simp [htake, hdrop, isPlain_ofNat, hvalue]
  | negSucc n =>
    have hne : n + 1 ≠ 0 := Nat.succ_ne_zero n
    simp only [ofNumber?, Decimal.ofInt, htake, hdrop, isPlain_ofNat, if_true, hvalue, if_neg hne]
    rfl

namespace Mode

/-- A number is read back, sign included. -/
theorem read_integer (value : Int) {rest : List Char} (hrest : EndsWord rest) :
    between.read (Token.write (.integer value) ++ rest) =
      (between.read rest).map (.integer value :: ·) := by
  obtain ⟨first, digits, hwrite, hfirst, hdigits⟩ := Decimal.exists_ofInt_eq_cons value
  have hstart : start first = some ([], number [first]) := by
    -- A sign or a digit is neither blank nor a quotation mark, so it starts a number.
    have hno : isSpace first = false ∧ first ≠ '"' := by
      rcases hfirst with rfl | hfirst
      · decide
      · constructor
        · simp only [isSpace, Bool.or_eq_false_iff, decide_eq_false_iff_not]
          refine ⟨⟨⟨?_, ?_⟩, ?_⟩, ?_⟩ <;> rintro rfl <;> exact absurd hfirst (by decide)
        · rintro rfl
          exact absurd hfirst (by decide)
    rw [start, hno.1, if_neg Bool.false_ne_true, if_neg hno.2, if_pos hfirst]
  have htoken : ofNumber? (first :: digits) = some (.integer value) :=
    hwrite ▸ ofNumber?_ofInt value
  rw [Token.write, hwrite]
  exact read_word number isNumeric ofNumber? (fun _ _ => rfl) (fun _ => rfl) hstart
    (fun c hc => by simp [isNumeric, hdigits c hc]) htoken fun c hc => (hrest c hc).1

end Mode

/-! ## Tokens -/

/-- Tokens that end only where something else begins. -/
def IsWord : Token → Prop
  | null | bool _ | integer _ | real _ => True
  | _ => False

/-- Tokens with a meaning of their own: every string is a text, and every number an integer. -/
def IsLegible : Token → Prop
  | real _ | string (.unreadable _) => False
  | _ => True

/-- No two words stand side by side. -/
def Separated (tokens : List Token) : Prop :=
  tokens.IsChain fun a b => a.IsWord → ¬b.IsWord

theorem Separated.cons_of_not_isWord {token : Token} {tokens : List Token} (htoken : ¬token.IsWord)
    (h : Separated tokens) : Separated (token :: tokens) :=
  List.isChain_cons.2 ⟨fun _ _ hword => absurd hword htoken, h⟩

/-- A token that is no word ends the one in front of it. -/
theorem endsWord_write {token : Token} (h : ¬token.IsWord) (hlegible : token.IsLegible)
    (rest : List Char) : Mode.EndsWord (token.write ++ rest) := by
  intro c hc
  cases token with
  | string wording =>
    cases wording with
    | text s => cases hc; decide
    | unreadable => exact hlegible.elim
  | null | bool | integer | real => exact absurd trivial h
  | _ => cases hc; decide

/-- The text of a token in front of other text is cut into the token and the tokens of that text. -/
theorem read_write {token : Token} (hlegible : token.IsLegible) {rest : List Char}
    (hrest : token.IsWord → Mode.EndsWord rest) :
    Mode.between.read (token.write ++ rest) = (Mode.between.read rest).map (token :: ·) := by
  cases token with
  | null => exact Mode.read_keyword rfl (by decide) rfl (hrest trivial)
  | bool value => cases value <;> exact Mode.read_keyword rfl (by decide) rfl (hrest trivial)
  | integer value => exact Mode.read_integer value (hrest trivial)
  | real => exact hlegible.elim
  | string wording =>
    cases wording with
    | text s => exact Mode.read_string s rest
    | unreadable => exact hlegible.elim
  | _ => exact Mode.read_of_step_token rfl rest

/-- The text of separated tokens is cut into these tokens. -/
theorem read_flatMap_write {tokens : List Token} (hlegible : ∀ token ∈ tokens, token.IsLegible)
    (h : Separated tokens) : Mode.between.read (tokens.flatMap write) = some tokens := by
  -- Each token is read in front of the text of the later ones.
  induction tokens with
  | nil => rfl
  | cons token tokens ih =>
    rw [List.forall_mem_cons] at hlegible
    obtain ⟨hapart, htokens⟩ := List.isChain_cons.1 h
    -- Behind a word stands nothing, or a token that is no word and ends it.
    have hrest : token.IsWord → Mode.EndsWord (tokens.flatMap write) := by
      intro hword
      cases tokens with
      | nil => exact fun _ hc => absurd hc (Option.not_mem_none _)
      | cons next tokens =>
        exact endsWord_write (hapart next rfl hword) (hlegible.2 next List.mem_cons_self) _
    rw [List.flatMap_cons, read_write hlegible.1 hrest, ih hlegible.2 htokens]
    rfl

end Standings.Json.Token
