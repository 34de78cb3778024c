import Mathlib.Data.List.DropRight
import Mathlib.Data.List.Infix

/-! The operations on strings that the sources use: splitting at a separator,
joining, trimming, and replacing every occurrence of a substring. They work on
the characters of the string, so that they can be evaluated. -/

namespace K8Sense.Text

universe u v

/-- `strings.Split` with a separator of one character. -/
def split (sep : Char) (text : String) : List String :=
  (text.toList.splitOn sep).map String.ofList

/-- `strings.Join` with a separator of one character. -/
def join (sep : Char) (parts : List String) : String :=
  String.ofList ([sep].intercalate (parts.map String.toList))

/-- `strings.Join`. -/
def concat (sep : String) (parts : List String) : String :=
  String.ofList (sep.toList.intercalate (parts.map String.toList))

/-- `strings.TrimRight` with a cutset of one character. -/
def trimRight (cut : Char) (text : String) : String :=
  String.ofList (text.toList.rdropWhile (· == cut))

/-- `strings.Trim` with a cutset of one character. -/
def trim (cut : Char) (text : String) : String :=
  String.ofList ((text.toList.dropWhile (· == cut)).rdropWhile (· == cut))

/-- `unicode.IsSpace`. -/
def isSpace (char : Char) : Bool :=
  let code := char.toNat
  9 ≤ code && code ≤ 13 || code = 32 || code = 0x85 || code = 0xa0 || code = 0x1680 ||
    0x2000 ≤ code && code ≤ 0x200a || code = 0x2028 || code = 0x2029 || code = 0x202f || code = 0x205f || code = 0x3000

/-- `strings.TrimSpace`. -/
def trimSpace (text : String) : String :=
  String.ofList ((text.toList.dropWhile isSpace).rdropWhile isSpace)

/-- `strings.TrimPrefix`. -/
def trimPrefix (start text : String) : String :=
  if start.toList.isPrefixOf text.toList then String.ofList (text.toList.drop start.toList.length) else text

/-- The part occurs somewhere in the text. -/
def contains {α : Type u} [BEq α] (text part : List α) : Bool :=
  text.tails.any part.isPrefixOf

/-- Replace the occurrences of `old` from left to right. The counter says how
many characters of the occurrence found last are still to be passed over. -/
def replaceFrom (old new : List Char) : Nat → List Char → List Char
  | _, [] => []
  | skip + 1, _ :: rest => replaceFrom old new skip rest
  | 0, char :: rest =>
    if old.isPrefixOf (char :: rest) then new ++ replaceFrom old new (old.length - 1) rest
    else char :: replaceFrom old new 0 rest

/-- `strings.ReplaceAll`, for a nonempty `old`. -/
def replaceAll (text old new : String) : String :=
  String.ofList (replaceFrom old.toList new.toList 0 text.toList)

/-- The parts of a text between the occurrences of a separator, found from left to
right. The counter says how many characters of a separator are still to be passed
over; the part that is being read is kept reversed. -/
def splitFrom (sep : List Char) : Nat → List Char → List Char → List (List Char)
  | _, part, [] => [part.reverse]
  | skip + 1, part, _ :: rest => splitFrom sep skip part rest
  | 0, part, char :: rest =>
    if sep.isPrefixOf (char :: rest) then part.reverse :: splitFrom sep (sep.length - 1) [] rest
    else splitFrom sep 0 (char :: part) rest

/-- `strings.Split`, for a nonempty separator. -/
def splitText (text sep : String) : List String :=
  (splitFrom sep.toList 0 [] text.toList).map String.ofList

theorem contains_between {α : Type u} [BEq α] [LawfulBEq α] (before part after : List α) :
    contains (before ++ part ++ after) part = true := by
  rw [contains, List.any_eq_true]
  refine ⟨part ++ after, ?_, by simp⟩
  rw [List.mem_tails, List.append_assoc]
  exact List.suffix_append before _

theorem contains_iff {α : Type u} [BEq α] [LawfulBEq α] {text part : List α} :
    contains text part = true ↔ ∃ before after, text = before ++ part ++ after := by
  constructor
  · intro found
    rw [contains, List.any_eq_true] at found
    obtain ⟨tail, member, start⟩ := found
    obtain ⟨before, rfl⟩ := (List.mem_tails tail text).mp member
    obtain ⟨after, rfl⟩ := List.isPrefixOf_iff_prefix.mp start
    exact ⟨before, after, by rw [List.append_assoc]⟩
  · rintro ⟨before, after, rfl⟩
    exact contains_between before part after

theorem split_join {sep : Char} {parts : List String} (nonempty : parts ≠ [])
    (free : ∀ part ∈ parts, sep ∉ part.toList) : split sep (join sep parts) = parts := by
  have freeLists : ∀ chars ∈ parts.map String.toList, sep ∉ chars := by
    intro chars member
    obtain ⟨part, found, rfl⟩ := List.mem_map.mp member
    exact free part found
  rw [split, join, String.toList_ofList, List.splitOn_intercalate sep freeLists (by simpa using nonempty)]
  simp [Function.comp_def]

/-- Joined parts without the separator are told apart by the joined text. -/
theorem join_injective {sep : Char} {parts others : List String}
    (nonempty : parts ≠ []) (otherNonempty : others ≠ [])
    (free : ∀ part ∈ parts, sep ∉ part.toList) (otherFree : ∀ part ∈ others, sep ∉ part.toList)
    (same : join sep parts = join sep others) : parts = others := by
  rw [← split_join nonempty free, same, split_join otherNonempty otherFree]

@[simp] theorem join_singleton {sep : Char} {part : String} : join sep [part] = part := by
  simp [join, List.intercalate]

theorem join_cons {sep : Char} {part : String} {parts : List String} (nonempty : parts ≠ []) :
    (join sep (part :: parts)).toList = part.toList ++ sep :: (join sep parts).toList := by
  obtain ⟨head, rest, rfl⟩ := List.exists_cons_of_ne_nil nonempty
  simp [join, List.intercalate]

theorem join_pair (first second : String) : first ++ "/" ++ second = join '/' [first, second] := by
  apply String.toList_injective
  rw [join_cons (List.cons_ne_nil second []), join_singleton]
  simp

theorem getLast?_join {sep : Char} {parts : List String} {last : String} (ends : parts.getLast? = some last)
    (present : last ≠ "") : (join sep parts).toList.getLast? = last.toList.getLast? := by
  induction parts with
  | nil => simp at ends
  | cons part parts ih =>
    by_cases empty : parts = []
    · subst empty
      obtain rfl : part = last := by simpa using ends
      rw [join_singleton]
    · rw [List.getLast?_cons_of_ne_nil empty] at ends
      have tail := ih ends
      rw [join_cons empty, List.getLast?_append, List.getLast?_cons_of_ne_nil, tail]
      · have visible : last.toList ≠ [] := by simpa using present
        rw [List.getLast?_eq_some_getLast visible]
        rfl
      · intro blank
        rw [blank] at tail
        have visible : last.toList ≠ [] := by simpa using present
        rw [List.getLast?_eq_some_getLast visible] at tail
        simp at tail

theorem mem_join {sep char : Char} {parts : List String} (member : char ∈ (join sep parts).toList) :
    char = sep ∨ ∃ part ∈ parts, char ∈ part.toList := by
  induction parts with
  | nil => simp [join, List.intercalate] at member
  | cons part parts ih =>
    by_cases empty : parts = []
    · subst empty
      rw [join_singleton] at member
      exact Or.inr ⟨part, by simp, member⟩
    · rw [join_cons empty, List.mem_append, List.mem_cons] at member
      rcases member with here | rfl | later
      · exact Or.inr ⟨part, by simp, here⟩
      · exact Or.inl rfl
      · rcases ih later with same | ⟨other, found, inside⟩
        · exact Or.inl same
        · exact Or.inr ⟨other, by simp [found], inside⟩

/-- A part without the separator can be told from a text, whatever follows it. -/
theorem join_cons_injective {sep : Char} {part other : String} {parts others : List String}
    (nonempty : parts ≠ []) (otherNonempty : others ≠ []) (free : sep ∉ part.toList) (otherFree : sep ∉ other.toList)
    (same : join sep (part :: parts) = join sep (other :: others)) : part = other ∧ join sep parts = join sep others := by
  have chars : part.toList ++ sep :: (join sep parts).toList = other.toList ++ sep :: (join sep others).toList := by
    rw [← join_cons nonempty, ← join_cons otherNonempty, same]
  have length : part.toList.length = other.toList.length := by
    have index := congrArg (List.idxOf sep) chars
    rwa [List.idxOf_append_of_notMem free, List.idxOf_append_of_notMem otherFree, List.idxOf_cons_self,
      List.idxOf_cons_self] at index
  obtain ⟨first, rest⟩ := List.append_inj chars length
  exact ⟨String.toList_injective first, String.toList_injective (List.cons.inj rest).2⟩

@[simp] theorem join_split (sep : Char) (text : String) : join sep (split sep text) = text := by
  simp [join, split, Function.comp_def, List.intercalate_splitOn]

theorem free_of_mem_split {sep : Char} {text part : String} (member : part ∈ split sep text) : sep ∉ part.toList := by
  have pieces : ∀ chars : List Char, ∀ piece ∈ chars.splitOn sep, sep ∉ piece := by
    intro chars
    induction chars with
    | nil => simp [List.splitOn_nil]
    | cons char rest ih =>
      rw [List.splitOn_cons_eq_if_modifyHead]
      split
      · intro piece found
        rcases List.mem_cons.mp found with rfl | later
        · simp
        · exact ih piece later
      · next other =>
        obtain ⟨first, others, shape⟩ := List.exists_cons_of_ne_nil (List.splitOn_ne_nil sep rest)
        rw [shape] at ih ⊢
        intro piece found
        rcases List.mem_cons.mp found with rfl | later
        · have different : char ≠ sep := by simpa using other
          simp [ih first (by simp), different.symm]
        · exact ih piece (by simp [later])
  obtain ⟨piece, found, rfl⟩ := List.mem_map.mp member
  simpa using pieces _ piece found

/-- A joined text is split into the pieces of its parts. -/
theorem split_join_pieces {sep : Char} {parts : List String} (nonempty : parts ≠ []) :
    split sep (join sep parts) = parts.flatMap (split sep) := by
  induction parts with
  | nil => exact absurd rfl nonempty
  | cons part rest ih =>
    by_cases last : rest = []
    · subst last
      simp
    · rw [List.flatMap_cons, ← ih last, split, join_cons last, List.splitOn_append_cons_self, List.map_append]
      rfl

/-- What a joined text says of its parts is which pieces they have, not where one
part ends and the next begins. -/
theorem join_eq_iff {sep : Char} {parts others : List String} (nonempty : parts ≠ []) (otherNonempty : others ≠ []) :
    join sep parts = join sep others ↔ parts.flatMap (split sep) = others.flatMap (split sep) := by
  rw [← split_join_pieces nonempty, ← split_join_pieces otherNonempty]
  constructor
  · exact congrArg (split sep)
  · intro same
    rw [← join_split sep (join sep parts), same, join_split]

/-- Joining with a separator and a blank is joining with the separator the parts
that have a blank before them. -/
theorem concat_blank (sep : Char) (part : String) (parts : List String) :
    concat (String.ofList [sep, ' ']) (part :: parts) =
      join sep (part :: parts.map fun other => String.ofList (' ' :: other.toList)) := by
  have lists (chars : List Char) (others : List (List Char)) :
      [sep, ' '].intercalate (chars :: others) = [sep].intercalate (chars :: others.map (' ' :: ·)) := by
    induction others generalizing chars with
    | nil => rfl
    | cons other rest ih =>
      rw [List.intercalate_cons_cons, ih, List.map_cons, List.intercalate_cons_cons, List.intercalate_cons_cons_left]
      simp
  rw [concat, join, String.toList_ofList, List.map_cons, lists]
  simp [Function.comp_def]

theorem concat_cons {sep part : String} {parts : List String} (nonempty : parts ≠ []) :
    (concat sep (part :: parts)).toList = part.toList ++ (sep.toList ++ (concat sep parts).toList) := by
  obtain ⟨head, rest, rfl⟩ := List.exists_cons_of_ne_nil nonempty
  simp [concat, List.intercalate]

@[simp] theorem concat_singleton {sep part : String} : concat sep [part] = part := by
  simp [concat, List.intercalate]

/-! Numbers in decimal. -/

theorem isDigit_of_mem_toString {number : Nat} {char : Char} (member : char ∈ (toString number).toList) : char.isDigit = true := by
  rw [Nat.toString_eq_repr, Nat.toList_repr] at member
  exact Nat.isDigit_of_mem_toDigits (by decide) (by decide) member

theorem toString_injective {first second : Nat} (same : toString first = toString second) : first = second := by
  have digits : Nat.toDigits 10 first = Nat.toDigits 10 second := by
    rw [← Nat.toList_repr, ← Nat.toList_repr]
    exact congrArg String.toList same
  have equal := congrArg (Nat.ofDigitChars 10 · 0) digits
  simpa only [Nat.ofDigitChars_ten_toDigits] using equal

theorem trim_free {cut : Char} {text : String} (free : cut ∉ text.toList) : trim cut text = text := by
  have front : text.toList.dropWhile (· == cut) = text.toList := by
    rw [List.dropWhile_eq_self_iff]
    intro nonempty first
    apply free
    rw [← beq_iff_eq.mp first]
    exact List.getElem_mem nonempty
  have back : text.toList.rdropWhile (· == cut) = text.toList := by
    rw [List.rdropWhile_eq_self_iff]
    intro nonempty last
    apply free
    rw [← beq_iff_eq.mp last]
    exact List.getLast_mem nonempty
  rw [trim, front, back, String.ofList_toList]

theorem trimRight_padded {cut : Char} {text : String} (count : Nat) (ends : ∀ char ∈ text.toList.getLast?, char ≠ cut) :
    trimRight cut (text ++ String.ofList (List.replicate count cut)) = text := by
  apply String.toList_injective
  rw [trimRight, String.toList_ofList, String.toList_append, String.toList_ofList]
  induction count with
  | zero =>
    rw [List.replicate_zero, List.append_nil]
    apply List.rdropWhile_eq_self_iff.mpr
    intro nonempty
    have last := ends _ (List.getLast?_eq_some_getLast nonempty)
    simpa using last
  | succ count ih =>
    rw [List.replicate_succ', ← List.append_assoc, List.rdropWhile_concat_pos _ _ _ (by simp)]
    exact ih

theorem trimSpace_free {text : String} (free : ∀ char ∈ text.toList, isSpace char = false) : trimSpace text = text := by
  have front : text.toList.dropWhile isSpace = text.toList := by
    rw [List.dropWhile_eq_self_iff]
    intro nonempty first
    rw [free _ (List.getElem_mem nonempty)] at first
    cases first
  have back : text.toList.rdropWhile isSpace = text.toList := by
    rw [List.rdropWhile_eq_self_iff]
    intro nonempty last
    rw [free _ (List.getLast_mem nonempty)] at last
    cases last
  rw [trimSpace, front, back, String.ofList_toList]

@[simp] theorem trimSpace_trimSpace (text : String) : trimSpace (trimSpace text) = trimSpace text := by
  have front : ((text.toList.dropWhile isSpace).rdropWhile isSpace).dropWhile isSpace =
      (text.toList.dropWhile isSpace).rdropWhile isSpace := by
    rw [List.dropWhile_eq_self_iff]
    intro nonempty
    have kept := List.rdropWhile_prefix isSpace (l := text.toList.dropWhile isSpace)
    rw [kept.getElem nonempty]
    exact List.dropWhile_get_zero_not isSpace _ (Nat.lt_of_lt_of_le nonempty kept.length_le)
  rw [trimSpace, trimSpace, String.toList_ofList, front, List.rdropWhile_idempotent]

theorem mem_trimSpace {text : String} {char : Char} (member : char ∈ (trimSpace text).toList) : char ∈ text.toList := by
  rw [trimSpace, String.toList_ofList] at member
  exact (List.dropWhile_suffix isSpace).mem ((List.rdropWhile_prefix isSpace _).mem member)

theorem trimPrefix_append (start text : String) : trimPrefix start (start ++ text) = text := by
  simp [trimPrefix]

theorem concat_empty_toList (parts : List String) : (concat "" parts).toList = parts.flatMap String.toList := by
  rw [concat, String.toList_ofList, List.flatMap_def]
  induction parts with
  | nil => rfl
  | cons part rest ih =>
    cases rest with
    | nil => simp [List.intercalate]
    | cons second others =>
      rw [List.map_cons, List.map_cons, List.intercalate_cons_cons, ← List.map_cons, ih]
      simp

/-- What is put behind a text without a separator lengthens its last piece. -/
theorem splitOn_append_free {α : Type u} [BEq α] [LawfulBEq α] {sep : α} (text tail : List α) (free : sep ∉ tail) :
    ∃ front last, text.splitOn sep = front ++ [last] ∧ (text ++ tail).splitOn sep = front ++ [last ++ tail] := by
  induction text with
  | nil => exact ⟨[], [], List.splitOn_nil sep, List.splitOn_eq_singleton free⟩
  | cons item rest ih =>
    obtain ⟨front, last, pieces, longer⟩ := ih
    by_cases here : item = sep
    · subst here
      have head (others : List α) : (item :: others).splitOn item = [] :: others.splitOn item := by
        have split := List.splitOn_append_cons_self [] others (a := item)
        rwa [List.nil_append, List.splitOn_nil] at split
      exact ⟨[] :: front, last, by rw [head, pieces, List.cons_append], by rw [List.cons_append, head, longer, List.cons_append]⟩
    · have head (others : List α) : (item :: others).splitOn sep = (others.splitOn sep).modifyHead (item :: ·) := by
        rw [List.splitOn_cons_eq_if_modifyHead, if_neg (by simpa using here)]
      cases front with
      | nil => exact ⟨[], item :: last, by rw [head, pieces]; rfl, by rw [List.cons_append, head, longer]; rfl⟩
      | cons first others =>
        exact ⟨(item :: first) :: others, last, by rw [head, pieces]; rfl, by rw [List.cons_append, head, longer]; rfl⟩

theorem trim_blank {cut : Char} {text : String} (free : cut ∉ text.toList) :
    trim cut (String.ofList (cut :: text.toList)) = text := by
  conv_rhs => rw [← trim_free free]
  simp [trim]

/-- Entries set apart by a separator and a blank are read back. -/
theorem entries_concat {sep : Char} {parts : List String} (nonempty : parts ≠ []) (visible : sep ≠ ' ')
    (free : ∀ part ∈ parts, sep ∉ part.toList ∧ ' ' ∉ part.toList) :
    (split sep (concat (String.ofList [sep, ' ']) parts)).map (trim ' ') = parts := by
  obtain ⟨part, rest, rfl⟩ := List.exists_cons_of_ne_nil nonempty
  rw [List.forall_mem_cons] at free
  rw [concat_blank, split_join (List.cons_ne_nil _ _)]
  · rw [List.map_cons, trim_free free.1.2, List.map_map, List.map_congr_left, List.map_id]
    intro other member
    exact trim_blank (free.2 other member).2
  · rw [List.forall_mem_cons, List.forall_mem_map]
    refine ⟨free.1.1, ?_⟩
    intro other member
    simp [visible, (free.2 other member).1]

theorem replaceFrom_singleton (old : Char) (new chars : List Char) :
    replaceFrom [old] new 0 chars = chars.flatMap fun char => if char = old then new else [char] := by
  induction chars with
  | nil => rfl
  | cons char rest ih =>
    by_cases same : char = old
    · subst same
      simp [replaceFrom, ih]
    · have other : old ≠ char := fun equal => same equal.symm
      simp [replaceFrom, same, other, ih]

/-- Replacing the symbols of a text by the words of a prefix code loses nothing. -/
theorem flatMap_injective {α : Type u} {β : Type v} {code : α → List β} (nonempty : ∀ symbol, code symbol ≠ [])
    (prefixFree : ∀ first second, code first <+: code second → first = second) :
    Function.Injective fun text : List α => text.flatMap code := by
  intro text
  induction text with
  | nil =>
    intro other same
    cases other with
    | nil => rfl
    | cons second others =>
      have empty : code second = [] := by
        simpa using (List.append_eq_nil_iff.mp same.symm).1
      exact absurd empty (nonempty second)
  | cons first rest ih =>
    intro other same
    cases other with
    | nil =>
      have empty : code first = [] := by
        simpa using (List.append_eq_nil_iff.mp same).1
      exact absurd empty (nonempty first)
    | cons second others =>
      simp only [List.flatMap_cons] at same
      have leading : first = second := by
        have long : code second <+: code first ++ rest.flatMap code := same ▸ List.prefix_append _ _
        rcases List.prefix_or_prefix_of_prefix (List.prefix_append _ _) long with shorter | longer
        · exact prefixFree _ _ shorter
        · exact (prefixFree _ _ longer).symm
      subst leading
      rw [ih (List.append_cancel_left same)]

end K8Sense.Text
