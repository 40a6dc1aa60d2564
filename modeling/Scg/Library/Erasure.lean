import Scg.Library.Program

-- A program beside one that keeps less: with the rest left out, both do the same.
namespace Program

variable {S T E α β : Type} {view : S → T}
def Erases (view : S → T) (full : Program S E α) (bare : Program T E α) : Prop :=
  ∀ s, bare (view s) = ((full s).1,view (full s).2)

theorem erases_pure (a : α) : Erases view (pure a : Program S E α) (pure a) := fun _ => rfl

theorem erases_fail (e : E) : Erases view (fail e : Program S E α) (fail e) := fun _ => rfl

theorem erases_ofExcept (value : Except E α) : Erases view (ofExcept value) (ofExcept value) := fun _ => rfl

theorem erases_modify {f : S → S} {f' : T → T} (agrees : ∀ s, f' (view s) = view (f s)) :
    Erases view (modify f : Program S E Unit) (modify f') := by
  intro s
  simp only [modify,agrees]

theorem erases_bind {next : α → Program S E β} {after : α → Program T E β}
    (first : Erases view full bare) (later : ∀ a, Erases view (next a) (after a)) :
    Erases view (full >>= next) (bare >>= after) := by
  intro s
  have same := first s
  simp only [bind]
  generalize full s = ended at same ⊢
  obtain ⟨result,t⟩ := ended
  rw [same]
  cases result with
  | ok a => exact later a t
  | error e => rfl

theorem erases_get_bind {next : S → Program S E α} {after : T → Program T E α}
    (later : ∀ s, Erases view (next s) (after (view s))) : Erases view (get >>= next) (get >>= after) :=
  fun s => later s s

theorem erases_attempt (inner : Erases view full bare) :
    Erases view (attempt full) (attempt bare) := by
  intro s
  simp only [attempt,inner s]

theorem erases_when {full : Program S E Unit} {bare : Program T E Unit} (condition : Bool) (inner : Erases view full bare) :
    Erases view (when condition full) (when condition bare) := by
  cases condition with
  | true => exact inner
  | false => exact erases_pure ()

theorem erases_ignore (inner : Erases view full bare) :
    Erases view (ignore full) (ignore bare) := erases_bind (erases_attempt inner) fun _ => erases_pure ()

theorem erases_each {full : α → Program S E Unit} {bare : α → Program T E Unit} (round : ∀ a, Erases view (full a) (bare a))
    (items : List α) : Erases view (each full items) (each bare items) := by
  induction items with
  | nil => exact erases_pure ()
  | cons a rest ih => exact erases_bind (round a) fun _ => ih

end Program
