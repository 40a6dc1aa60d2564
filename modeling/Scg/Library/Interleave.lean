import Scg.Library.Interaction

namespace Interaction

variable {M A Op : Type} {Reply : Op → Type} {α β : Type}

structure Setting (M A Op : Type) (Reply : Op → Type) where
  perform : M → (op : Op) → Reply op × M
  peer : M → A → Option M

namespace Setting

def peers (E : Setting M A Op Reply) : M → List A → Option M
  | m,[] => some m
  | m,action :: actions => (E.peer m action).bind fun next => E.peers next actions

variable {E : Setting M A Op Reply}

theorem peers_append (first second : List A) : E.peers m (first ++ second) = (E.peers m first).bind fun mid => E.peers mid second := by
  induction first generalizing m with
  | nil => rfl
  | cons action first ih =>
    simp only [List.cons_append,peers]
    cases E.peer m action with
    | none => rfl
    | some next => exact ih

theorem peers_trans (one : E.peers m first = some mid) (two : E.peers mid second = some after) :
    E.peers m (first ++ second) = some after := by rwa [peers_append,one]

theorem peers_keep {I : M → Prop} (kept : ∀ m action next, I m → E.peer m action = some next → I next)
    (holds : I m) (ran : E.peers m actions = some after) : I after := by
  induction actions generalizing m with
  | nil => cases ran; exact holds
  | cons action actions ih =>
    obtain ⟨next,moved,later⟩ := Option.bind_eq_some_iff.mp ran
    exact ih (kept m action next holds moved) later

theorem peers_follow {R : M → M → Prop} (followed : ∀ m other action next, R m other → E.peer m action = some next →
      ∃ onward, E.peer other action = some onward ∧ R next onward)
    (related : R m other) (ran : E.peers m actions = some after) :
    ∃ final, E.peers other actions = some final ∧ R after final := by
  induction actions generalizing m other with
  | nil => cases ran; exact ⟨other,rfl,related⟩
  | cons action actions ih =>
    obtain ⟨next,moved,later⟩ := Option.bind_eq_some_iff.mp ran
    obtain ⟨onward,follows,still⟩ := followed m other action next related moved
    obtain ⟨final,rest,ends⟩ := ih still later
    exact ⟨final,by rw [peers,follows]; exact rest,ends⟩

end Setting

-- A program run to its end, with the peer's actions in the given order between its requests.
inductive Interleaved (E : Setting M A Op Reply) : M → Program Op Reply α → List A → M → α → Prop where
  | done (m : M) (result : α) : Interleaved E m (.ret result) [] m result
  | peer {m next after : M} {program : Program Op Reply α} {action : A} {actions : List A} {result : α} :
      E.peer m action = some next → Interleaved E next program actions after result →
      Interleaved E m program (action :: actions) after result
  | own {m after : M} {op : Op} {next : Reply op → Program Op Reply α} {actions : List A} {result : α} :
      Interleaved E (E.perform m op).2 (next (E.perform m op).1) actions after result →
      Interleaved E m (.request op next) actions after result

namespace Interleaved

theorem wait (waited : E.peers m before = some mid)
    (ran : Interleaved E mid program rest after result) : Interleaved E m program (before ++ rest) after result := by
  induction before generalizing m with
  | nil => cases waited; exact ran
  | cons action before ih =>
    obtain ⟨next,moved,later⟩ := Option.bind_eq_some_iff.mp waited
    exact .peer moved (ih later)

theorem ret_iff : Interleaved E m (.ret a) actions after result ↔ E.peers m actions = some after ∧ result = a := by
  constructor
  · intro ran
    induction actions generalizing m with
    | nil => cases ran; exact ⟨rfl,rfl⟩
    | cons action actions ih =>
      cases ran with
      | peer moved later =>
        obtain ⟨rest,same⟩ := ih later
        exact ⟨by rw [Setting.peers,moved]; exact rest,same⟩
  · rintro ⟨waited,rfl⟩
    rw [← List.append_nil actions]
    exact wait waited (.done after result)

theorem request_iff {next : Reply op → Program Op Reply α} :
    Interleaved E m (.request op next) actions after result ↔
      ∃ before rest mid, actions = before ++ rest ∧ E.peers m before = some mid ∧
        Interleaved E (E.perform mid op).2 (next (E.perform mid op).1) rest after result := by
  constructor
  · intro ran
    induction actions generalizing m with
    | nil =>
      cases ran with
      | own later => exact ⟨[],[],m,rfl,rfl,later⟩
    | cons action actions ih =>
      cases ran with
      | own later => exact ⟨[],action :: actions,m,rfl,rfl,later⟩
      | peer moved later =>
        obtain ⟨before,rest,mid,rfl,waited,onward⟩ := ih later
        exact ⟨action :: before,rest,mid,rfl,by rw [Setting.peers,moved]; exact waited,onward⟩
  · rintro ⟨before,rest,mid,rfl,waited,later⟩
    exact wait waited (.own later)

theorem bind_iff {f : α → Program Op Reply β} {result : β} :
    Interleaved E m (program >>= f) actions after result ↔
      ∃ first second mid a, actions = first ++ second ∧ Interleaved E m program first mid a ∧
        Interleaved E mid (f a) second after result := by
  constructor
  · intro ran
    induction program generalizing m actions with
    | ret a => exact ⟨[],actions,m,a,rfl,.done m a,ran⟩
    | request op next ih =>
      obtain ⟨before,rest,mid,rfl,waited,later⟩ := request_iff.mp ran
      obtain ⟨first,second,final,a,rfl,one,two⟩ := ih _ later
      exact ⟨before ++ first,second,final,a,(List.append_assoc _ _ _).symm,wait waited (.own one),two⟩
  · rintro ⟨first,second,mid,a,rfl,one,two⟩
    induction one with
    | done m a => exact two
    | peer moved _ ih => exact .peer moved (ih two)
    | own _ ih => exact .own (ih two)

theorem linger (ran : Interleaved E m program first mid result)
    (waited : E.peers mid second = some after) : Interleaved E m program (first ++ second) after result := by
  induction ran with
  | done m a => exact ret_iff.mpr ⟨waited,rfl⟩
  | peer moved _ ih => exact .peer moved (ih waited)
  | own _ ih => exact .own (ih waited)

theorem map_iff {f : α → β} {result : β} :
    Interleaved E m (program >>= fun a => .ret (f a)) actions after result ↔
      ∃ a, Interleaved E m program actions after a ∧ result = f a := by
  constructor
  · intro ran
    obtain ⟨first,second,mid,a,rfl,one,two⟩ := bind_iff.mp ran
    obtain ⟨waited,same⟩ := ret_iff.mp two
    exact ⟨a,linger one waited,same⟩
  · rintro ⟨a,ran,rfl⟩
    rw [← List.append_nil actions]
    exact bind_iff.mpr ⟨actions,[],after,a,rfl,ran,.done after (f a)⟩

end Interleaved

end Interaction
