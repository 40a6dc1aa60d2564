import Mathlib.Data.List.AList
import Mathlib.Data.Finset.Card

namespace Tables
open List AList

variable {α β κ : Type} [DecidableEq α] [DecidableEq κ]

def select (p : β → Bool) (table : AList fun _ : α => β) : Finset α :=
  ((table.entries.filter fun entry => p entry.2).map (·.1)).toFinset

section Select
variable {p : β → Bool} {table : AList fun _ : α => β}

theorem mem_select : a ∈ select p table ↔ ∃ b, table.lookup a = some b ∧ p b = true := by
  simp only [select,mem_toFinset,mem_map,mem_filter]
  constructor
  · rintro ⟨⟨_,b⟩,⟨present,holds⟩,rfl⟩
    exact ⟨b,mem_lookup_iff.mpr present,holds⟩
  · rintro ⟨b,found,holds⟩
    exact ⟨⟨a,b⟩,⟨mem_lookup_iff.mp found,holds⟩,rfl⟩

theorem card_select : (select p table).card = (table.entries.filter fun entry => p entry.2).length := by
  have distinct : ((table.entries.filter fun entry => p entry.2).map (·.1)).Nodup :=
    List.Nodup.sublist (filter_sublist.map _) table.nodupKeys
  rw [select,toFinset_card_of_nodup distinct,length_map]

theorem lookup_erase_some (found : (table.erase a).lookup other = some b) : other ≠ a ∧ table.lookup other = some b := by
  by_cases same : other = a
  · subst same
    rw [lookup_erase] at found
    cases found
  · rw [lookup_erase_ne same] at found
    exact ⟨same,found⟩

end Select

-- An index leads from the key of a row to the row. Stale rows are on their way out: the
-- index no longer leads to them.
structure Indexed (key : β → κ) (stale : α → Prop) (index : AList fun _ : κ => α) (table : AList fun _ : α => β) :
    Prop where
  sound : ∀ k a, index.lookup k = some a → ∃ b, table.lookup a = some b ∧ key b = k
  apart : ∀ k a, index.lookup k = some a → ¬ stale a

def Complete (key : β → κ) (stale : α → Prop) (index : AList fun _ : κ => α) (table : AList fun _ : α => β) : Prop :=
  ∀ a b, table.lookup a = some b → ¬ stale a → index.lookup (key b) = some a

section Index
variable {key : β → κ} {stale next : α → Prop}
theorem indexed_empty : Indexed key stale ∅ ∅ :=
  ⟨fun _ _ found => by simp at found,fun _ _ found => by simp at found⟩

theorem complete_empty : Complete key stale ∅ ∅ := fun _ _ found => by simp at found

theorem Indexed.narrow (indexed : Indexed key stale index table) (shrunk : ∀ x, next x → stale x) :
    Indexed key next index table :=
  ⟨indexed.sound,fun k x led old => indexed.apart k x led (shrunk x old)⟩

theorem Complete.widen (complete : Complete key stale index table) (grown : ∀ x, stale x → next x) :
    Complete key next index table :=
  fun a b found live => complete a b found fun old => live (grown a old)

theorem Indexed.enter (indexed : Indexed key stale index table) (fresh : table.lookup a = none) (clean : ¬ stale a)
    (grown : ∀ x, next x → stale x ∨ index.lookup (key b) = some x) :
    Indexed key next (index.insert (key b) a) (table.insert a b) := by
  have kept : ∀ k x, k ≠ key b → (index.insert (key b) a).lookup k = some x → index.lookup k = some x := by
    intro k x other found
    rwa [lookup_insert_ne other] at found
  refine ⟨?_,?_⟩
  · intro k x found
    by_cases same : k = key b
    · subst same
      rw [lookup_insert] at found
      cases found
      exact ⟨b,lookup_insert _,rfl⟩
    · obtain ⟨row,present,named⟩ := indexed.sound k x (kept k x same found)
      have other : x ≠ a := by
        intro equal
        rw [equal,fresh] at present
        cases present
      exact ⟨row,by rwa [lookup_insert_ne other],named⟩
  · intro k x found out
    by_cases same : k = key b
    · subst same
      rw [lookup_insert] at found
      cases found
      rcases grown a out with old | led
      · exact clean old
      · obtain ⟨row,present,_⟩ := indexed.sound _ _ led
        rw [fresh] at present
        cases present
    · have led := kept k x same found
      rcases grown x out with old | taken
      · exact indexed.apart k x led old
      · obtain ⟨row,present,named⟩ := indexed.sound k x led
        obtain ⟨again,found,shared⟩ := indexed.sound _ x taken
        rw [present] at found
        cases found
        exact same (named.symm.trans shared)

theorem Complete.enter (complete : Complete key stale index table)
    (grown : ∀ x, stale x ∨ index.lookup (key b) = some x → next x) :
    Complete key next (index.insert (key b) a) (table.insert a b) := by
  intro x row found live
  by_cases same : x = a
  · subst same
    rw [lookup_insert] at found
    cases found
    exact lookup_insert _
  · rw [lookup_insert_ne same] at found
    have led := complete x row found fun old => live (grown x (.inl old))
    have other : key row ≠ key b := fun equal => live (grown x (.inr (equal ▸ led)))
    rwa [lookup_insert_ne other]

theorem Indexed.drop (indexed : Indexed key stale index table) (out : stale a) (shrunk : ∀ x, next x → stale x) :
    Indexed key next index (table.erase a) := by
  refine ⟨?_,fun k x led old => indexed.apart k x led (shrunk x old)⟩
  intro k x led
  obtain ⟨row,present,named⟩ := indexed.sound k x led
  have other : x ≠ a := fun equal => indexed.apart k x led (equal ▸ out)
  exact ⟨row,by rwa [lookup_erase_ne other],named⟩

theorem Complete.drop (complete : Complete key stale index table) (shrunk : ∀ x, x ≠ a → stale x → next x) :
    Complete key next index (table.erase a) := by
  intro x row found live
  obtain ⟨other,found⟩ := lookup_erase_some found
  exact complete x row found fun old => live (shrunk x other old)

theorem Indexed.remove (indexed : Indexed key stale index table) (present : table.lookup a = some b) :
    Indexed key stale (index.erase (key b)) (table.erase a) := by
  refine ⟨?_,fun k x led => indexed.apart k x (lookup_erase_some led).2⟩
  intro k x led
  obtain ⟨other,led⟩ := lookup_erase_some led
  obtain ⟨row,found,named⟩ := indexed.sound k x led
  have apart : x ≠ a := by
    intro equal
    rw [equal,present] at found
    cases found
    exact other named.symm
  exact ⟨row,by rwa [lookup_erase_ne apart],named⟩

theorem Complete.remove (complete : Complete key stale index table) (present : table.lookup a = some b)
    (live : ¬ stale a) : Complete key stale (index.erase (key b)) (table.erase a) := by
  intro x row found kept
  obtain ⟨other,found⟩ := lookup_erase_some found
  have led := complete x row found kept
  have apart : key row ≠ key b := by
    intro equal
    rw [equal,complete a b present live] at led
    exact other (Option.some.inj led).symm
  rwa [lookup_erase_ne apart]

theorem Indexed.inverse (indexed : Indexed key stale index table) (complete : Complete key stale index table)
    (quiet : ∀ x, ¬ stale x) : index.lookup k = some a ↔ ∃ b, table.lookup a = some b ∧ key b = k := by
  constructor
  · exact indexed.sound k a
  · rintro ⟨b,present,rfl⟩
    exact complete a b present (quiet a)

end Index

def column {γ : Type} (f : β → γ) (table : AList fun _ : α => β) : AList fun _ : α => γ where
  entries := table.entries.map fun entry => ⟨entry.1,f entry.2⟩
  nodupKeys := by
    unfold List.NodupKeys List.keys
    rw [List.map_map]
    exact table.nodupKeys

section Column
variable {γ : Type} {f : β → γ} {a : α}

omit [DecidableEq α] in
theorem column_keys : (column f table).keys = table.keys := by simp [column,AList.keys,List.keys]

omit [DecidableEq α] in
@[simp] theorem mem_column : a ∈ column f table ↔ a ∈ table := by rw [AList.mem_keys,AList.mem_keys,column_keys]

omit [DecidableEq α] in
@[simp] theorem length_column : (column f table).entries.length = table.entries.length :=
  length_map _

omit [DecidableEq α] in
@[simp] theorem column_empty : column f (∅ : AList fun _ : α => β) = ∅ := rfl

theorem lookup_column : (column f table).lookup a = (table.lookup a).map f := by
  obtain ⟨entries,distinct⟩ := table
  change dlookup a (entries.map fun entry => (⟨entry.1,f entry.2⟩ : (_ : α) × γ)) = (dlookup a entries).map f
  clear distinct
  induction entries with
  | nil => rfl
  | cons entry rest ih =>
    obtain ⟨key,value⟩ := entry
    by_cases same : a = key
    · subst same
      simp
    · rwa [map_cons,dlookup_cons_ne _ _ same,dlookup_cons_ne _ _ same]

@[simp] theorem column_erase : column f (table.erase a) = (column f table).erase a := by
  apply ext
  change (table.entries.kerase a).map _ = (table.entries.map _).kerase a
  simp [kerase,eraseP_map,Function.comp_def]

@[simp] theorem column_insert : column f (table.insert a b) = (column f table).insert a (f b) := by
  have erased : (column f (table.erase a)).entries = ((column f table).erase a).entries := by rw [column_erase]
  apply ext
  exact congrArg (⟨a,f b⟩ :: ·) erased

theorem column_erases (keys : List α) (table : AList fun _ : α => β) :
    column f (keys.foldl (fun kept key => kept.erase key) table) =
      keys.foldl (fun kept key => kept.erase key) (column f table) := by
  induction keys generalizing table with
  | nil => rfl
  | cons key keys ih => rw [foldl_cons,foldl_cons,ih,column_erase]

end Column

section Length
variable {table : AList fun _ : α => β}

theorem length_erase_le : (table.erase a).entries.length ≤ table.entries.length :=
  (kerase_sublist a table.entries).length_le

theorem length_erase (present : a ∈ table) : (table.erase a).entries.length+1 = table.entries.length := by
  obtain ⟨_,before,after,_,entries,erased⟩ := exists_of_kerase present
  change (kerase a table.entries).length+1 = _
  rw [erased,entries]
  simp only [length_cons,length_append]
  omega

theorem length_insert_new (new : a ∉ table) : (table.insert a b).entries.length = table.entries.length+1 := by
  rw [entries_insert_of_notMem new,length_cons]

theorem length_insert_old (old : a ∈ table) : (table.insert a b).entries.length = table.entries.length := by
  exact length_erase old

theorem erases_within (keys : List α) (table : AList fun _ : α => β) :
    (keys.foldl (fun kept key => kept.erase key) table).entries.length ≤ table.entries.length ∧
    ∀ a b, (keys.foldl (fun kept key => kept.erase key) table).lookup a = some b → table.lookup a = some b := by
  induction keys generalizing table with
  | nil => exact ⟨le_refl _,fun _ _ found => found⟩
  | cons key keys ih =>
    obtain ⟨shorter,kept⟩ := ih (table.erase key)
    refine ⟨shorter.trans length_erase_le,?_⟩
    intro a b found
    exact (lookup_erase_some (kept a b found)).2

end Length

end Tables
