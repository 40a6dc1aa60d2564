import Mathlib.Tactic.Common

namespace Interaction

-- A call as the sequence of requests it makes of memory it does not own; one text serves
-- an honest memory, an interleaving and an adversary.
inductive Program (Op : Type) (Reply : Op → Type) (α : Type) : Type where
  | ret (result : α) : Program Op Reply α
  | request (op : Op) (next : Reply op → Program Op Reply α) : Program Op Reply α

namespace Program

def bind (program : Program Op Reply α) (f : α → Program Op Reply β) : Program Op Reply β :=
  match program with
  | .ret result => f result
  | .request op next => .request op fun reply => (next reply).bind f

instance : Monad (Program Op Reply) where
  pure := .ret
  bind := bind

@[simp] theorem pure_eq (a : α) : (pure a : Program Op Reply α) = .ret a := rfl
@[simp] theorem ret_bind (a : α) (f : α → Program Op Reply β) : (Program.ret a >>= f) = f a := rfl
@[simp] theorem request_bind (op : Op) (next : Reply op → Program Op Reply α) (f : α → Program Op Reply β) :
    (Program.request op next >>= f) = .request op fun reply => next reply >>= f := rfl
theorem bind_assoc (program : Program Op Reply α) (f : α → Program Op Reply β) (f' : β → Program Op Reply γ) :
    (program >>= f) >>= f' = program >>= fun a => f a >>= f' := by
  induction program with
  | ret a => rfl
  | request op next ih => exact congrArg (Program.request op) (funext ih)

abbrev Event (Op : Type) (Reply : Op → Type) := (op : Op) × Reply op

-- Some environment answers with `events`, and the program then returns `result`.
def Trace : Program Op Reply α → List (Event Op Reply) → α → Prop
  | .ret a,events,result => events = [] ∧ result = a
  | .request op next,events,result =>
    ∃ reply rest, events = ⟨op,reply⟩ :: rest ∧ Trace (next reply) rest result

@[simp] theorem trace_ret : Trace (.ret a) events result ↔ events = [] ∧ result = a := Iff.rfl
@[simp] theorem trace_request {op : Op} {next : Reply op → Program Op Reply α} :
    Trace (.request op next) events result ↔
      ∃ reply rest, events = ⟨op,reply⟩ :: rest ∧ Trace (next reply) rest result := Iff.rfl

def Every (P : Op → Prop) (Q : α → Prop) : Program Op Reply α → Prop
  | .ret a => Q a
  | .request op next => P op ∧ ∀ reply, (next reply).Every P Q

variable {Op : Type} {Reply : Op → Type} {α β : Type} {P : Op → Prop} {Q : α → Prop} {R : β → Prop}

@[simp] theorem every_ret : (Program.ret a : Program Op Reply α).Every P Q ↔ Q a := Iff.rfl
@[simp] theorem every_request {next : Reply op → Program Op Reply α} :
    (Program.request op next).Every P Q ↔ P op ∧ ∀ reply, (next reply).Every P Q := Iff.rfl

theorem every_bind {f : α → Program Op Reply β}
    (first : program.Every P Q) (rest : ∀ a, Q a → (f a).Every P R) : (program >>= f).Every P R := by
  induction program with
  | ret a => exact rest a first
  | request op next ih => exact ⟨first.1,fun reply => ih reply (first.2 reply)⟩

theorem Every.weaken {P' : Op → Prop} {program : Program Op Reply α} (every : program.Every P Q)
    (weaker : ∀ op, P op → P' op) : program.Every P' Q := by
  induction program with
  | ret a => exact every
  | request op next ih => exact ⟨weaker op every.1,fun reply => ih reply (every.2 reply)⟩

theorem Every.trace (every : program.Every P Q) (trace : Trace program events result) :
    (∀ event ∈ events, P event.1) ∧ Q result := by
  induction program generalizing events with
  | ret a =>
    obtain ⟨rfl,rfl⟩ := trace
    exact ⟨by simp,every⟩
  | request op next ih =>
    obtain ⟨reply,rest,rfl,later⟩ := trace
    obtain ⟨tail,value⟩ := ih reply (every.2 reply) later
    refine ⟨?_,value⟩
    intro event present
    rcases List.mem_cons.mp present with rfl | old
    · exact every.1
    · exact tail event old

-- A program whose result is `Q` once one of its requests was marked, and before it
-- unrestricted; `done` says that one was.
def Commits (marks : Op → Bool) (Q : α → Prop) : Bool → Program Op Reply α → Prop
  | done,.ret a => done = true → Q a
  | done,.request op next => ∀ reply, (next reply).Commits marks Q (done || marks op)

theorem commits_map {marks : Op → Bool} {f : α → β}
    (commits : program.Commits marks Q done) (keeps : ∀ a, Q a → R (f a)) :
    (program >>= fun a => Program.ret (f a)).Commits marks R done := by
  induction program generalizing done with
  | ret a => exact fun marked => keeps a (commits marked)
  | request op next ih => exact fun reply => ih reply (commits reply)

def Within : Nat → Program Op Reply α → Prop
  | _,.ret _ => True
  | 0,.request _ _ => False
  | n+1,.request _ next => ∀ reply, (next reply).Within n

theorem Within.weaken {program : Program Op Reply α} (short : program.Within n) : program.Within (n+1) := by
  induction program generalizing n with
  | ret a => trivial
  | request op next ih =>
    cases n with
    | zero => exact short.elim
    | succ n => exact fun reply => ih reply (short reply)

section Play
variable {M N : Type} (perform : M → (op : Op) → Reply op × M) (note : Op → List N)

def play : Program Op Reply α → M → α × List N × M
  | .ret a,m => (a,[],m)
  | .request op next,m =>
    let later := (next (perform m op).1).play (perform m op).2
    (later.1,note op ++ later.2.1,later.2.2)

@[simp] theorem play_ret (a : α) (m : M) : (Program.ret a : Program Op Reply α).play perform note m = (a,[],m) := rfl

theorem play_bind (program : Program Op Reply α) (f : α → Program Op Reply β) (m : M) :
    (program >>= f).play perform note m =
      let first := program.play perform note m
      let second := (f first.1).play perform note first.2.2
      (second.1,first.2.1 ++ second.2.1,second.2.2) := by
  induction program generalizing m with
  | ret a => rfl
  | request op next ih =>
    have later := ih (perform m op).1 (perform m op).2
    simp only [request_bind,play] at later ⊢
    rw [later]
    simp only [List.append_assoc]

theorem play_silent {program : Program Op Reply α} (silent : program.Every (fun op => note op = []) Q) (m : M) :
    (program.play perform note m).2.1 = [] := by
  induction program generalizing m with
  | ret a => rfl
  | request op next ih =>
    simp only [play]
    rw [silent.1,ih _ (silent.2 _)]
    rfl

end Play

end Program

end Interaction
