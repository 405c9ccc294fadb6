import Mathlib.Data.List.Infix
import Mathlib.Data.List.TakeWhile
import GatewayControl.Text.Blank
import GatewayControl.Text.Split

/-!
Parts of a text: by position in bytes, between separators, and between the blanks around it.
-/

namespace GatewayControl.Text

/-! Positions in bytes. -/

@[simp] theorem utf8Length_nil : utf8Length [] = 0 := rfl

@[simp] theorem utf8Length_cons (head : Char) (rest : List Char) :
    utf8Length (head :: rest) = head.utf8Size + utf8Length rest := rfl

@[simp] theorem utf8Length_append (text rest : List Char) :
    utf8Length (text ++ rest) = utf8Length text + utf8Length rest := by
  induction text with
  | nil => simp
  | cons head text ih =>
      rw [List.cons_append, utf8Length_cons, utf8Length_cons, ih]
      omega

theorem utf8ByteSize_ofList (text : List Char) :
    (String.ofList text).utf8ByteSize = utf8Length text := by
  induction text with
  | nil => rfl
  | cons head rest ih =>
      have split : String.ofList (head :: rest) = String.singleton head ++ String.ofList rest := by
        rw [String.singleton_eq_ofList, ← String.ofList_append]
        rfl
      rw [split, String.utf8ByteSize_append, String.utf8ByteSize_singleton, ih, utf8Length_cons]

/-- The texts before and after a position. There are none if the position lies inside a character
or behind the end. -/
def cut? : Nat → List Char → Option (List Char × List Char)
  | 0, text => some ([], text)
  | _ + 1, [] => none
  | bytes + 1, head :: rest =>
    if head.utf8Size ≤ bytes + 1 then
      (cut? (bytes + 1 - head.utf8Size) rest).map fun (before, after) => (head :: before, after)
    else none

theorem cut?_append (before after : List Char) :
    cut? (utf8Length before) (before ++ after) = some (before, after) := by
  induction before with
  | nil => rw [utf8Length_nil, List.nil_append, cut?]
  | cons head before ih =>
      have positive := head.utf8Size_pos
      obtain ⟨bytes, same⟩ : ∃ bytes, utf8Length (head :: before) = bytes + 1 :=
        ⟨utf8Length (head :: before) - 1, by rw [utf8Length_cons]; omega⟩
      have later : bytes + 1 - head.utf8Size = utf8Length before := by
        rw [← same, utf8Length_cons]
        omega
      rw [same, List.cons_append, cut?, later, ih, if_pos (by rw [← same, utf8Length_cons]; omega)]
      rfl

theorem cut?_eq_some_iff {position : Nat} {text before after : List Char} :
    cut? position text = some (before, after) ↔
      text = before ++ after ∧ utf8Length before = position := by
  constructor
  · induction text generalizing position before with
    | nil =>
        intro found
        cases position with
        | zero =>
            cases found
            exact ⟨rfl, rfl⟩
        | succ bytes => simp [cut?] at found
    | cons head rest ih =>
        intro found
        cases position with
        | zero =>
            cases found
            exact ⟨rfl, rfl⟩
        | succ bytes =>
            rw [cut?] at found
            split at found
            next fits =>
              obtain ⟨⟨before', after'⟩, inner, same⟩ := Option.map_eq_some_iff.1 found
              cases same
              obtain ⟨split, length⟩ := ih inner
              rw [split, utf8Length_cons]
              exact ⟨rfl, by omega⟩
            next => simp at found
  · rintro ⟨rfl, rfl⟩
    exact cut?_append before after

/-- The part of a text between two positions. There is none if they are out of order or one of them
is no boundary between characters of the text. -/
def slice? (text : List Char) (start stop : Nat) : Option (List Char) := do
  let (_, after) ← cut? start text
  guard (start ≤ stop)
  let (part, _) ← cut? (stop - start) after
  return part

theorem slice?_eq_some_iff {text part : List Char} {start stop : Nat} :
    slice? text start stop = some part ↔
      ∃ before after, text = before ++ (part ++ after) ∧ utf8Length before = start ∧
        utf8Length (before ++ part) = stop := by
  constructor
  · intro found
    rw [slice?] at found
    obtain ⟨⟨before, rest⟩, first, found⟩ := Option.bind_eq_some_iff.1 found
    obtain ⟨_, ordered, found⟩ := Option.bind_eq_some_iff.1 found
    obtain ⟨⟨part', after⟩, second, same⟩ := Option.bind_eq_some_iff.1 found
    cases same
    obtain ⟨split, length⟩ := cut?_eq_some_iff.1 first
    obtain ⟨inner, width⟩ := cut?_eq_some_iff.1 second
    have order : start ≤ stop := by
      by_contra wrong
      simp [guard, wrong] at ordered
    refine ⟨before, after, inner ▸ split, length, ?_⟩
    rw [utf8Length_append, length, width]
    omega
  · rintro ⟨before, after, rfl, rfl, rfl⟩
    simp [slice?, cut?_append, guard]

theorem slice?_append (before part after : List Char) :
    slice? (before ++ (part ++ after)) (utf8Length before) (utf8Length (before ++ part)) =
      some part :=
  slice?_eq_some_iff.2 ⟨before, after, rfl, rfl, rfl⟩

/-! Parts between separators. -/

theorem splitAt_of_notMem {separator : Char} {text : List Char} (absent : separator ∉ text) :
    splitAt separator text = [text] := by
  induction text with
  | nil => rfl
  | cons head rest ih =>
      rw [List.mem_cons, not_or] at absent
      rw [splitAt, if_neg (Ne.symm absent.1), ih absent.2]

theorem splitAt_append {separator : Char} {part : List Char} (absent : separator ∉ part)
    (rest : List Char) :
    splitAt separator (part ++ separator :: rest) = part :: splitAt separator rest := by
  induction part with
  | nil => rw [List.nil_append, splitAt, if_pos rfl]
  | cons head part ih =>
      rw [List.mem_cons, not_or] at absent
      rw [List.cons_append, splitAt, if_neg (Ne.symm absent.1), ih absent.2]

theorem splitAt_ne_nil (separator : Char) (text : List Char) : splitAt separator text ≠ [] := by
  cases text with
  | nil => simp [splitAt]
  | cons head rest =>
      rw [splitAt]
      split
      · simp
      · split <;> simp

theorem intercalate_splitAt (separator : Char) (text : List Char) :
    [separator].intercalate (splitAt separator text) = text := by
  induction text with
  | nil => rfl
  | cons head rest ih =>
      rw [splitAt]
      split
      next same =>
        rw [List.intercalate_cons_of_ne_nil (splitAt_ne_nil separator rest), ih, same]
        rfl
      next =>
        obtain ⟨part, parts, parted⟩ := List.exists_cons_of_ne_nil (splitAt_ne_nil separator rest)
        rw [parted] at ih ⊢
        cases parts with
        | nil => simpa using ih
        | cons next parts =>
            rw [List.intercalate_cons_cons] at ih ⊢
            rw [← ih, List.cons_append, List.cons_append]

theorem splitAt_intercalate {separator : Char} {parts : List (List Char)} (some_part : parts ≠ [])
    (absent : ∀ part ∈ parts, separator ∉ part) :
    splitAt separator ([separator].intercalate parts) = parts := by
  induction parts with
  | nil => exact absurd rfl some_part
  | cons part parts ih =>
      have own := absent part List.mem_cons_self
      cases parts with
      | nil =>
          rw [List.intercalate_singleton]
          exact splitAt_of_notMem own
      | cons next parts =>
          rw [List.intercalate_cons_cons, List.append_assoc, List.singleton_append,
            splitAt_append own, ih (List.cons_ne_nil _ _) fun other member =>
              absent other (List.mem_cons_of_mem _ member)]

/-! Blanks around a text. -/

def Trims (text bare : List Char) : Prop :=
  ∃ front back, text = front ++ bare ++ back ∧
    (∀ char ∈ front ++ back, isBlank char) ∧
    (∀ char ∈ bare.head?, isBlank char = false) ∧ ∀ char ∈ bare.getLast?, isBlank char = false

theorem dropWhile_append_of_head {accepted : Char → Bool} {front text : List Char}
    (all : ∀ char ∈ front, accepted char) (kept : ∀ char ∈ text.head?, accepted char = false) :
    (front ++ text).dropWhile accepted = text := by
  rw [List.dropWhile_append_of_pos all]
  cases text with
  | nil => rfl
  | cons head rest => rw [List.dropWhile_cons_of_neg (by simp [kept head rfl])]

theorem head_dropWhile (accepted : Char → Bool) (text : List Char) :
    ∀ char ∈ (text.dropWhile accepted).head?, accepted char = false := by
  intro char found
  have kept := List.head?_dropWhile_not accepted text
  rw [Option.mem_def.1 found] at kept
  simpa using kept

theorem trim_eq_nil_iff {text : List Char} : trim text = [] ↔ ∀ char ∈ text, isBlank char := by
  rw [trim, dropEndWhile, List.reverse_eq_nil_iff, List.dropWhile_eq_nil_iff]
  constructor
  · intro all char member
    by_contra visible
    rw [← List.takeWhile_append_dropWhile (p := isBlank) (l := text), List.mem_append] at member
    rcases member with front | back
    · exact visible (List.mem_takeWhile_imp front)
    · exact visible (all char (List.mem_reverse.2 back))
  · intro all char member
    exact all char ((List.dropWhile_sublist _).subset (List.mem_reverse.1 member))

theorem trim_eq_iff {text bare : List Char} : trim text = bare ↔ Trims text bare := by
  constructor
  · rintro rfl
    have back : (text.dropWhile isBlank).reverse.takeWhile isBlank ++ (trim text).reverse =
        (text.dropWhile isBlank).reverse := by
      rw [trim, dropEndWhile, List.reverse_reverse, List.takeWhile_append_dropWhile]
    have whole : trim text ++ ((text.dropWhile isBlank).reverse.takeWhile isBlank).reverse =
        text.dropWhile isBlank := by
      rw [← List.reverse_inj, List.reverse_append, List.reverse_reverse, back]
    refine ⟨text.takeWhile isBlank,
      ((text.dropWhile isBlank).reverse.takeWhile isBlank).reverse, ?_, ?_, ?_, ?_⟩
    · rw [List.append_assoc, whole, List.takeWhile_append_dropWhile]
    · intro char member
      rcases List.mem_append.1 member with front | back
      · exact List.mem_takeWhile_imp front
      · exact List.mem_takeWhile_imp (List.mem_reverse.1 back)
    · intro char first
      have kept := head_dropWhile isBlank text
      rw [← whole] at kept
      exact kept char (by rw [List.head?_append, Option.mem_def.1 first]; rfl)
    · intro char last
      rw [trim, dropEndWhile, List.getLast?_reverse] at last
      exact head_dropWhile isBlank _ char last
  · rintro ⟨front, back, rfl, blank, first, last⟩
    rw [List.forall_mem_append] at blank
    cases bare with
    | nil =>
        rw [trim_eq_nil_iff, List.append_nil, List.forall_mem_append]
        exact blank
    | cons head rest =>
        have start : (front ++ (head :: rest) ++ back).dropWhile isBlank =
            (head :: rest) ++ back := by
          rw [List.append_assoc]
          exact dropWhile_append_of_head blank.1 first
        have stop : (back.reverse ++ (head :: rest).reverse).dropWhile isBlank =
            (head :: rest).reverse := by
          refine dropWhile_append_of_head (fun char member => ?_) ?_
          · exact blank.2 char (List.mem_reverse.1 member)
          · rw [List.head?_reverse]
            exact last
        rw [trim, start, dropEndWhile, List.reverse_append, stop, List.reverse_reverse]

end GatewayControl.Text
