import Mathlib.Algebra.Ring.Nat

/-! Placeholders: queries are written with question marks, for which PostgreSQL wants
numbers. -/

namespace K8Sense.Doctor.Sql

inductive Dialect where
  | sqlite
  | postgres
  deriving DecidableEq

/-- The loop of `itoa`, on what is left of the number and the digits found. -/
def digits (n : Nat) (found : List Char) : List Char :=
  if n > 0 then digits (n / 10) (Char.ofNat (48 + n % 10) :: found) else found

def itoa (n : Nat) : List Char := if n < 10 then [Char.ofNat (48 + n)] else digits n []

/-- The loop of `rebind`, on whether it is in a literal and on how many placeholders
it has numbered. -/
def scan : Bool → Nat → List Char → List Char
  | _, _, [] => []
  | true, arg, '\'' :: '\'' :: rest => '\'' :: '\'' :: scan true arg rest
  | inLiteral, arg, char :: rest =>
    if char = '\'' then char :: scan (!inLiteral) arg rest
    else if char = '?' ∧ inLiteral = false then '$' :: itoa (arg + 1) ++ scan inLiteral (arg + 1) rest
    else char :: scan inLiteral arg rest

def rebind (dialect : Dialect) (query : String) : String :=
  match dialect with
  | .sqlite => query
  | .postgres => String.ofList (scan false 0 query.toList)

/-! What the parts of an SQL text are. -/

inductive Region where
  | plain
  | literal
  | identifier
  | lineComment
  | blockComment (inside : Nat)
  deriving DecidableEq

def endsLine : Dialect → Char → Bool
  | .sqlite, char => char = '\n'
  | .postgres, char => char = '\n' || char = '\r'

/-- The region of each character. A doubled quote closes a literal or an identifier
and opens it again. PostgreSQL nests comments. -/
def regions (dialect : Dialect) : Region → List Char → List (Char × Region)
  | _, [] => []
  | .plain, '-' :: '-' :: rest => ('-', .lineComment) :: ('-', .lineComment) :: regions dialect .lineComment rest
  | .plain, '/' :: '*' :: rest => ('/', .blockComment 0) :: ('*', .blockComment 0) :: regions dialect (.blockComment 0) rest
  | .plain, '\'' :: rest => ('\'', .literal) :: regions dialect .literal rest
  | .plain, '"' :: rest => ('"', .identifier) :: regions dialect .identifier rest
  | .plain, char :: rest => (char, .plain) :: regions dialect .plain rest
  | .literal, char :: rest => (char, .literal) :: regions dialect (if char = '\'' then .plain else .literal) rest
  | .identifier, char :: rest => (char, .identifier) :: regions dialect (if char = '"' then .plain else .identifier) rest
  | .lineComment, char :: rest => (char, .lineComment) :: regions dialect (if endsLine dialect char then .plain else .lineComment) rest
  | .blockComment inside, '*' :: '/' :: rest => ('*', .blockComment inside) :: ('/', .blockComment inside) ::
      regions dialect (match inside with | 0 => .plain | outer + 1 => .blockComment outer) rest
  | .blockComment inside, '/' :: '*' :: rest =>
    if dialect = .postgres then
      ('/', .blockComment inside) :: ('*', .blockComment inside) :: regions dialect (.blockComment (inside + 1)) rest
    else ('/', .blockComment inside) :: regions dialect (.blockComment inside) ('*' :: rest)
  | .blockComment inside, char :: rest => (char, .blockComment inside) :: regions dialect (.blockComment inside) rest

/-- Number the question marks that are not marked as being in a literal. -/
def number : Nat → List (Char × Bool) → List Char
  | _, [] => []
  | arg, (char, inLiteral) :: rest =>
    if char = '?' ∧ inLiteral = false then '$' :: (toString (arg + 1)).toList ++ number (arg + 1) rest
    else char :: number arg rest

def literals (parts : List (Char × Region)) : List (Char × Bool) := parts.map fun part => (part.1, decide (part.2 = .literal))

/-- The query with each question mark outside the literals replaced by its number. -/
def numbered (dialect : Dialect) (query : String) : String :=
  String.ofList (number 0 (literals (regions dialect .plain query.toList)))

/-- An apostrophe in a comment or in a quoted identifier. -/
def stray (part : Char × Region) : Bool := part.1 = '\'' && part.2 ≠ .plain && part.2 ≠ .literal

/-- Before each question mark there is an even number of such apostrophes. -/
def Balanced (parts : List (Char × Region)) : Prop :=
  ∀ before region after, parts = before ++ ('?', region) :: after → before.countP stray % 2 = 0

theorem digits_eq (n : Nat) (positive : 0 < n) (found : List Char) : digits n found = Nat.toDigits 10 n ++ found := by
  induction n using Nat.strongRecOn generalizing found with
  | ind n ih =>
    have digit : ∀ digit < 10, Char.ofNat (48 + digit) = digit.digitChar := by decide
    rw [digits, if_pos positive, digit _ (Nat.mod_lt _ (by decide))]
    by_cases small : n < 10
    · rw [Nat.div_eq_of_lt small, digits, if_neg (by decide), Nat.mod_eq_of_lt small, Nat.toDigits_of_lt_base small]
      rfl
    · have large : 10 ≤ n := by omega
      rw [ih (n / 10) (by omega) (by omega), Nat.toDigits_of_base_le (by decide) large, List.append_assoc]
      rfl

theorem itoa_eq (n : Nat) : itoa n = (toString n).toList := by
  have decimal : (toString n).toList = Nat.toDigits 10 n := by
    simp
  rw [decimal, itoa]
  split
  next small =>
    have digit : ∀ digit < 10, [Char.ofNat (48 + digit)] = Nat.toDigits 10 digit := by decide
    exact digit n small
  next large => rw [digits_eq n (by omega), List.append_nil]

/-- Whether the loop is in a literal at each character: every apostrophe turns it. -/
def flags : Bool → List Char → List (Char × Bool)
  | _, [] => []
  | inLiteral, char :: rest => (char, inLiteral) :: flags (inLiteral ^^ (char = '\'')) rest

theorem scan_eq (inLiteral : Bool) (arg : Nat) (chars : List Char) : scan inLiteral arg chars = number arg (flags inLiteral chars) := by
  fun_induction scan inLiteral arg chars with
  | case1 => rfl
  | case2 arg rest ih => simp [flags, number, ih]
  | case3 inLiteral arg rest _ ih => simp [flags, number, ih]
  | case4 inLiteral arg char rest _ other placeholder ih =>
    obtain ⟨rfl, rfl⟩ := placeholder
    simp [flags, number, ih, itoa_eq]
  | case5 inLiteral arg char rest _ other kept ih => simp [flags, number, ih, other, kept]

/-- As `Balanced`, for an odd or even number of such apostrophes so far. -/
def BalancedFrom : Bool → List (Char × Region) → Prop
  | _, [] => True
  | odd, part :: rest => (part.1 = '?' → odd = false) ∧ BalancedFrom (odd ^^ stray part) rest

theorem balancedFrom_iff {odd : Bool} {parts : List (Char × Region)} : BalancedFrom odd parts ↔
    ∀ before region after, parts = before ++ ('?', region) :: after → (before.countP stray + odd.toNat) % 2 = 0 := by
  induction parts generalizing odd with
  | nil => simp [BalancedFrom]
  | cons part rest ih =>
    have turn : ∀ count : Nat, (count + (odd ^^ stray part).toNat) % 2 = (count + (if stray part then 1 else 0) + odd.toNat) % 2 := by
      intro count
      cases odd <;> cases stray part <;> simp
      omega
    rw [BalancedFrom, ih]
    constructor
    · intro ⟨here, later⟩ before region after parts
      cases before with
      | nil =>
        obtain ⟨rfl, _⟩ := List.cons.inj parts
        simp [here rfl]
      | cons first before =>
        obtain ⟨rfl, tail⟩ := List.cons.inj parts
        have even := later before region after tail
        rwa [turn, ← List.countP_cons] at even
    · intro even
      refine ⟨?_, ?_⟩
      · intro mark
        have first := even [] part.2 rest (by rw [← mark]; rfl)
        revert first
        cases odd <;> simp
      · intro before region after parts
        have later := even (part :: before) region after (by rw [parts]; rfl)
        rwa [turn, ← List.countP_cons]

/-- One character on, where the loop is in a literal exactly when the text is, or the
other way round after an odd number of stray apostrophes. -/
theorem scan_cons {char : Char} {inLiteral odd : Bool} {region : Region} {rest : List Char} {parts : List (Char × Region)}
    (here : char = '?' → inLiteral = (decide (region = .literal) ^^ odd))
    (tails : ∀ arg, number arg (flags (inLiteral ^^ (char = '\'')) rest) = number arg (literals parts) ↔
      BalancedFrom (odd ^^ stray (char, region)) parts) (arg : Nat) :
    number arg (flags inLiteral (char :: rest)) = number arg (literals ((char, region) :: parts)) ↔
      BalancedFrom odd ((char, region) :: parts) := by
  rw [flags, BalancedFrom]
  change number arg ((char, inLiteral) :: _) = number arg ((char, decide (region = .literal)) :: literals parts) ↔ _
  generalize flags _ rest = scanned at tails ⊢
  generalize literals parts = meant at tails ⊢
  generalize BalancedFrom _ parts = balanced at tails ⊢
  by_cases mark : char = '?'
  · subst mark
    rw [here rfl]
    by_cases literal : region = .literal
    · cases odd <;> simp [number, literal, tails]
    · cases odd <;> simp [number, literal, tails]
  · simp [number, mark, tails]

theorem scan_regions (dialect : Dialect) (region : Region) (chars : List Char) {inLiteral odd : Bool}
    (here : inLiteral = (decide (region = .literal) ^^ odd)) (arg : Nat) :
    number arg (flags inLiteral chars) = number arg (literals (regions dialect region chars)) ↔
      BalancedFrom odd (regions dialect region chars) := by
  fun_induction regions dialect region chars generalizing inLiteral odd arg with
  | case1 => simp [flags, literals, BalancedFrom]
  | case2 rest ih =>
    apply scan_cons (by simp [here])
    apply scan_cons (by simp [here])
    exact ih (by simp [here, stray])
  | case3 rest ih =>
    apply scan_cons (by simp [here])
    apply scan_cons (by simp [here])
    exact ih (by simp [here, stray])
  | case4 rest ih =>
    apply scan_cons (by simp)
    exact ih (by simp [here, stray])
  | case5 rest ih =>
    apply scan_cons (by simp)
    exact ih (by simp [here, stray])
  | case6 char rest _ _ quote _ ih =>
    apply scan_cons (by simp [here])
    have other : char ≠ '\'' := quote
    exact ih (by simp [here, stray, other])
  | case7 char rest ih =>
    apply scan_cons (by simp [here])
    apply ih
    by_cases quote : char = '\'' <;> simp [here, stray, quote]
  | case8 char rest ih =>
    apply scan_cons (by simp [here])
    apply ih
    by_cases quote : char = '\'' <;> split <;> simp [here, stray, quote]
  | case9 char rest ih =>
    apply scan_cons (by simp [here])
    apply ih
    by_cases quote : char = '\'' <;> split <;> simp [here, stray, quote]
  | case10 inside rest ih =>
    apply scan_cons (by simp)
    apply scan_cons (by simp)
    apply ih
    cases inside <;> simp [here, stray]
  | case11 inside rest _ ih =>
    apply scan_cons (by simp)
    apply scan_cons (by simp)
    exact ih (by simp [here, stray])
  | case12 inside rest _ ih =>
    apply scan_cons (by simp)
    exact ih (by simp [here, stray])
  | case13 inside char rest _ _ ih =>
    apply scan_cons (by simp [here])
    apply ih
    by_cases quote : char = '\'' <;> simp [here, stray, quote]

/-- A query is rebound as it is meant, whichever backend says what its literals are,
exactly when no question mark comes after an odd number of apostrophes in comments
and quoted identifiers. -/
theorem rebind_iff (lexed : Dialect) (query : String) :
    rebind .postgres query = numbered lexed query ∧ rebind .sqlite query = query ↔ Balanced (regions lexed .plain query.toList) := by
  have scanned : rebind .postgres query = numbered lexed query ↔ BalancedFrom false (regions lexed .plain query.toList) := by
    have outside : false = (decide (Region.plain = .literal) ^^ false) := by decide
    rw [rebind, numbered, String.ofList_inj, scan_eq]
    exact scan_regions lexed .plain query.toList outside 0
  rw [scanned, balancedFrom_iff, Balanced]
  exact and_iff_left rfl

/-- The placeholder after the comment is not numbered. -/
theorem comment_hides_placeholder : ¬∀ lexed query, rebind .postgres query = numbered lexed query ∧ rebind .sqlite query = query := by
  intro all
  have balanced := (all .postgres "SELECT a -- the job's name\nFROM t WHERE b = ?").1
  exact absurd balanced (by decide +kernel)

end K8Sense.Doctor.Sql
