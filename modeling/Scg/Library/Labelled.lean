import Mathlib.Tactic.Common

namespace Labelled
open List

variable {α : Type}
def spell : List (List α) → List (List α) → List α
  | label :: labels,text :: texts => text ++ (label ++ spell labels texts)
  | [],text :: _ => text
  | _,[] => []

-- Two records that read alike although they differ: where the texts first differ, the
-- second record's goes on with the label that follows the first record's.
def Shifted : List (List α) → List (List α) → List (List α) → Prop
  | label :: labels,a :: as,b :: bs =>
    (a = b ∧ Shifted labels as bs) ∨
      ∃ inside, b = a ++ (label ++ inside) ∧ spell labels as = inside ++ (label ++ spell labels bs)
  | _,_,_ => False

def Marked (sep : α) (label : List α) : Prop := ∃ name, label = sep :: name ∧ sep ∉ name

theorem marked_of_head (head : label.head? = some sep) (once : sep ∉ label.tail) : Marked sep label := by
  obtain ⟨name,rfl⟩ := head?_eq_some_iff.mp head
  exact ⟨name,rfl,once⟩

theorem Marked.ne_nil (marked : Marked sep label) : label ≠ [] := by
  obtain ⟨name,rfl,_⟩ := marked
  exact cons_ne_nil sep name

-- A label cannot start inside another copy of itself.
theorem Marked.apart (marked : Marked sep label)
    (same : label ++ left = skipped ++ (label ++ right)) : skipped = [] ∨ ∃ inside, skipped = label ++ inside := by
  obtain ⟨name,rfl,once⟩ := marked
  cases skipped with
  | nil => exact .inl rfl
  | cons first skipped =>
    obtain ⟨rfl,tail⟩ := cons.inj same
    rcases append_eq_append_iff.mp tail with ⟨inside,further,_⟩ | ⟨inside,shorter,rest⟩
    · exact .inr ⟨inside,by rw [further,cons_append]⟩
    · cases inside with
      | nil =>
        rw [append_nil] at shorter
        exact .inr ⟨[],by rw [shorter,append_nil]⟩
      | cons again inside =>
        obtain ⟨rfl,_⟩ := cons.inj rest
        refine absurd ?_ once
        rw [shorter]
        exact mem_append_right _ mem_cons_self

theorem shifted_ne (marked : ∀ label ∈ labels, Marked sep label)
    (shifted : Shifted labels first second) : first ≠ second := by
  induction labels generalizing first second with
  | nil => simp [Shifted] at shifted
  | cons label labels ih =>
    cases first with
    | nil => simp [Shifted] at shifted
    | cons a as =>
      cases second with
      | nil => simp [Shifted] at shifted
      | cons b bs =>
        intro same
        obtain ⟨rfl,rfl⟩ := cons.inj same
        rcases shifted with ⟨_,shifted⟩ | ⟨inside,longer,_⟩
        · exact ih (fun other present => marked other (mem_cons_of_mem _ present)) shifted rfl
        · have empty : label ++ inside = [] := append_right_eq_self.mp longer.symm
          exact (marked label mem_cons_self).ne_nil (append_eq_nil_iff.mp empty).1

theorem spell_eq_of_shifted (shifted : Shifted labels first second) :
    spell labels first = spell labels second := by
  induction labels generalizing first second with
  | nil => simp [Shifted] at shifted
  | cons label labels ih =>
    cases first with
    | nil => simp [Shifted] at shifted
    | cons a as =>
      cases second with
      | nil => simp [Shifted] at shifted
      | cons b bs =>
        rcases shifted with ⟨rfl,shifted⟩ | ⟨inside,rfl,rest⟩
        · rw [spell,spell,ih shifted]
        · rw [spell,spell,rest]
          simp only [append_assoc]

theorem shifted_of_longer (marked : Marked sep label)
    (further : spell labels as = spell labels bs → as = bs ∨ Shifted labels as bs ∨ Shifted labels bs as)
    (longer : b = a ++ skipped) (same : label ++ spell labels as = skipped ++ (label ++ spell labels bs)) :
    a :: as = b :: bs ∨ Shifted (label :: labels) (a :: as) (b :: bs) ∨ Shifted (label :: labels) (b :: bs) (a :: as) := by
  rcases marked.apart same with rfl | ⟨inside,rfl⟩
  · rw [append_nil] at longer
    subst longer
    rcases further (append_cancel_left same) with rfl | shifted | shifted
    · exact .inl rfl
    · exact .inr (.inl (.inl ⟨rfl,shifted⟩))
    · exact .inr (.inr (.inl ⟨rfl,shifted⟩))
  · rw [append_assoc] at same
    exact .inr (.inl (.inr ⟨inside,longer,append_cancel_left same⟩))

theorem spell_eq_iff (marked : ∀ label ∈ labels, Marked sep label)
    (first_size : first.length = labels.length+1) (second_size : second.length = labels.length+1) :
    spell labels first = spell labels second ↔
      first = second ∨ Shifted labels first second ∨ Shifted labels second first := by
  constructor
  · intro same
    induction labels generalizing first second with
    | nil =>
      obtain ⟨a,rfl⟩ := length_eq_one_iff.mp first_size
      obtain ⟨b,rfl⟩ := length_eq_one_iff.mp second_size
      exact .inl (congrArg (fun text => [text]) same)
    | cons label labels ih =>
      obtain ⟨a,as,rfl⟩ := exists_cons_of_length_eq_add_one first_size
      obtain ⟨b,bs,rfl⟩ := exists_cons_of_length_eq_add_one second_size
      have later : ∀ other ∈ labels, Marked sep other := fun other present => marked other (mem_cons_of_mem _ present)
      have further := ih later (Nat.succ.inj first_size) (Nat.succ.inj second_size)
      have backward := ih later (Nat.succ.inj second_size) (Nat.succ.inj first_size)
      have here := marked label mem_cons_self
      rcases append_eq_append_iff.mp same with ⟨skipped,longer,rest⟩ | ⟨skipped,longer,rest⟩
      · exact shifted_of_longer here further longer rest
      · rcases shifted_of_longer here backward longer rest with equal | shifted | shifted
        · exact .inl equal.symm
        · exact .inr (.inr shifted)
        · exact .inr (.inl shifted)
  · rintro (rfl | shifted | shifted)
    · rfl
    · exact spell_eq_of_shifted shifted
    · exact (spell_eq_of_shifted shifted).symm

theorem not_shifted_of_plain (marked : ∀ label ∈ labels, Marked sep label)
    (plain : ∀ text ∈ second, sep ∉ text) : ¬ Shifted labels first second := by
  intro shifted
  induction labels generalizing first second with
  | nil => simp [Shifted] at shifted
  | cons label labels ih =>
    cases first with
    | nil => simp [Shifted] at shifted
    | cons a as =>
      cases second with
      | nil => simp [Shifted] at shifted
      | cons b bs =>
        rcases shifted with ⟨_,shifted⟩ | ⟨inside,longer,_⟩
        · exact ih (fun other present => marked other (mem_cons_of_mem _ present))
            (fun text present => plain text (mem_cons_of_mem _ present)) shifted
        · obtain ⟨name,rfl,_⟩ := marked label mem_cons_self
          apply plain b mem_cons_self
          rw [longer]
          exact mem_append_right _ mem_cons_self

end Labelled
