import Scg.Library.Interaction

namespace Interaction

-- A thread that shares a world with others: between two of its requests they may change
-- it by `rely`, and each of its own changes keeps `promise`, inside `scope`.
structure Thread (Op : Type) (Reply : Op → Type) (W : Type) where
  act : (op : Op) → W → Reply op × W
  rely : W → W → Prop
  promise : W → W → Prop
  scope : W → Prop

namespace Thread

variable {Op : Type} {Reply : Op → Type} {W α β : Type} {t : Thread Op Reply W}
variable {Q : α → W → Prop} {R : β → W → Prop}

-- Run from `w`, the program keeps the promise at every request and ends with a result
-- and a world that meet `Q`, whatever the others do between its requests.
def Ends (t : Thread Op Reply W) (Q : α → W → Prop) : Program Op Reply α → W → Prop
  | .ret a,w => Q a w
  | .request op next,w => t.scope (t.act op w).2 →
      t.promise w (t.act op w).2 ∧ ∀ now, t.rely (t.act op w).2 now → Ends t Q (next (t.act op w).1) now

-- The same for a program that waits: the others may move first.
def Waits (t : Thread Op Reply W) (Q : α → W → Prop) (program : Program Op Reply α) (w : W) : Prop :=
  ∀ now, t.rely w now → t.Ends Q program now

theorem Ends.bind {f : α → Program Op Reply β} (first : t.Ends Q program w)
    (rest : ∀ a now, Q a now → t.Ends R (f a) now) : t.Ends R (program >>= f) w := by
  induction program generalizing w with
  | ret a => exact rest a w first
  | request op next ih =>
    intro inside
    obtain ⟨kept,later⟩ := first inside
    exact ⟨kept,fun now others => ih _ (later now others)⟩

theorem Waits.stable (trans : ∀ a b c, t.rely a b → t.rely b c → t.rely a c)
    (waits : t.Waits Q program w) (others : t.rely w after) : t.Waits Q program after :=
  fun now later => waits now (trans _ _ _ others later)

theorem Waits.request {next : Reply op → Program Op Reply α} (waits : t.Waits Q (.request op next) w)
    (still : t.rely w w) (inside : t.scope (t.act op w).2) :
    t.promise w (t.act op w).2 ∧ t.Waits Q (next (t.act op w).1) (t.act op w).2 := waits w still inside

theorem Waits.result (waits : t.Waits Q (.ret a) w) (still : t.rely w w) : Q a w := waits w still

end Thread

end Interaction
