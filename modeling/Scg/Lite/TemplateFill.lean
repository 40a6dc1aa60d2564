import Scg.Lite.Merge
import Scg.Library.JsonFill

namespace Scg.Lite
open Json Filler

variable {templates : Templates}

structure Templates.Orderly (templates : Templates) : Prop where
  enabled : Ordered templates.enabled
  transparent : Ordered templates.transparent
  runtimeUpdate : Ordered templates.runtimeUpdate
  source : Ordered templates.source
  outInterface : Ordered templates.outInterface
  mode : Ordered templates.mode
  appClass : Ordered (.obj templates.appClass)

theorem get_orderly {key : String} (ordered : Ordered doc) (found : doc.get key = some value) : Ordered value := by
  cases doc with
  | obj fields => exact lookup_ordered ordered found
  | _ => cases found

theorem indexApp_orderly (indexed : Ordered (.obj index)) (ordered : Ordered app) :
    Ordered (.obj (indexApp index app)) := by
  unfold indexApp
  split
  · rename_i trafficClass _ found
    exact insert_ordered indexed (get_orderly ordered found)
  · exact indexed

theorem indexApps_orderly {apps : List Json} (indexed : Ordered (.obj index))
    (ordered : ∀ app ∈ apps, Ordered app) : Ordered (.obj (apps.foldl indexApp index)) := by
  induction apps generalizing index with
  | nil => exact indexed
  | cons app rest ih =>
    refine ih (indexApp_orderly indexed (ordered app List.mem_cons_self)) ?_
    exact fun later present => ordered later (List.mem_cons_of_mem _ present)

theorem defaultRuntimeUpdate_ordered : Ordered defaultRuntimeUpdate := by
  have strings (texts : List String) : Ordered (.arr (texts.map .str)) := by
    refine .arr _ fun item present => ?_
    obtain ⟨text,_,rfl⟩ := List.mem_map.mp present
    exact .plain _ rfl
  refine .obj _ (by decide) fun field present => ?_
  simp only [List.mem_cons,List.not_mem_nil,or_false] at present
  rcases present with rfl | rfl | rfl
  · exact strings ["paths"]
  · exact .plain _ rfl
  · exact strings ["ingress.endpoint.port","protection.profile_ref"]

theorem defaultEgressSource_ordered : Ordered defaultEgressSource := by
  refine .obj _ (by decide) fun field present => ?_
  simp only [List.mem_cons,List.not_mem_nil,or_false] at present
  rcases present with rfl | rfl <;> exact .plain _ rfl

theorem Templates.of_orderly (ordered : Ordered doc) : (Templates.of doc).Orderly := by
  have setting (group key : String) (fallback : Json) (plain : Ordered fallback) :
      Ordered ((((doc.get "defaults").bind (Json.get group)).bind (Json.get key)).getD fallback) := by
    cases found : ((doc.get "defaults").bind (Json.get group)).bind (Json.get key) with
    | none => exact plain
    | some value =>
      obtain ⟨grouped,first,last⟩ := Option.bind_eq_some_iff.mp found
      obtain ⟨defaults,there,inner⟩ := Option.bind_eq_some_iff.mp first
      exact get_orderly (get_orderly (get_orderly ordered there) inner) last
  have apps : ∀ app ∈ (doc.arrAt "apps").getD [], Ordered app := by
    intro app present
    cases found : doc.arrAt "apps" with
    | none =>
      rw [found] at present
      exact absurd present List.not_mem_nil
    | some apps =>
      rw [found] at present
      obtain ⟨value,there,array⟩ := Option.bind_eq_some_iff.mp found
      cases value with
      | arr items =>
        cases Option.some.inj array
        exact ordered_arr.mp (get_orderly ordered there) app present
      | _ => cases array
  exact {
    enabled := setting _ _ _ (.plain _ rfl)
    transparent := setting _ _ _ (.plain _ rfl)
    runtimeUpdate := setting _ _ _ defaultRuntimeUpdate_ordered
    source := setting _ _ _ defaultEgressSource_ordered
    outInterface := setting _ _ _ (.plain _ rfl)
    mode := setting _ _ _ (.plain _ rfl)
    appClass := indexApps_orderly (.obj [] .nil fun _ absent => absurd absent List.not_mem_nil) apps}

section Fillers
variable {templates : Templates} (orderly : templates.Orderly)

def groupFiller : Filler :=
  missing "connection_group_id" ["connection_id"] (lookup "connection_id")
    (fun _ _ alike => alike _ List.mem_cons_self) fun _ _ object found => lookup_ordered object found

def classFiller : Filler :=
  missing "traffic_class" ["app_id"]
    (fun fields => ((lookup "app_id" fields).bind Json.asStr).bind fun app => lookup app templates.appClass)
    (fun _ _ alike => by rw [alike _ List.mem_cons_self])
    fun _ _ _ found => by
      obtain ⟨app,_,indexed⟩ := Option.bind_eq_some_iff.mp found
      exact lookup_ordered orderly.appClass indexed

theorem outInterface_ordered (orderly : templates.Orderly) :
    Ordered (.obj [("out_interface",templates.outInterface)]) := by
  refine .obj _ (List.pairwise_singleton _ _) fun field present => ?_
  rw [List.mem_singleton.mp present]
  exact orderly.outInterface

def pathFillers (count : Nat) : List Filler :=
  (if count == 1 then [fixed "role" (.str "primary") (.plain _ rfl),fixed "priority" (.uint 0) (.plain _ rfl)] else []) ++
    [object "egress" [fixed "source" templates.source orderly.source] (List.pairwise_singleton _ _),
      fixed "routing" (.obj [("out_interface",templates.outInterface)]) (outInterface_ordered orderly)]

theorem pathFillers_independent (count : Nat) : Independent (pathFillers orderly count) := by
  unfold pathFillers Independent
  split <;> simp [fixed,missing,object,member]

def connectionFillers : List Filler := [
  fixed "enabled" templates.enabled orderly.enabled,
  fixed "transparent" templates.transparent orderly.transparent,
  groupFiller,
  classFiller orderly,
  fixed "runtime_update" templates.runtimeUpdate orderly.runtimeUpdate,
  object "protection" [fixed "mode" templates.mode orderly.mode] (List.pairwise_singleton _ _),
  items "paths" (pathFillers orderly) (pathFillers_independent orderly)]

theorem connectionFillers_independent : Independent (connectionFillers orderly) := by
  simp [connectionFillers,Independent,groupFiller,classFiller,fixed,missing,object,Filler.items,member]

def connectionsFiller : Filler :=
  items "connections" (fun _ => connectionFillers orderly) fun _ => connectionFillers_independent orderly

end Fillers

section Filling
variable {key : String}

theorem fixed_fill {ordered : Ordered value} : (fixed key value ordered).fill fields = orInsert key value fields := by
  unfold orInsert
  split
  · rename_i found
    exact missing_fill_present found
  · rename_i absent
    exact missing_fill_absent absent

theorem fillUnread_fst (ordered : Ordered template) :
    (fillUnread key template warning fields).1 = (fixed key template ordered).fill fields := by
  rw [fixed_fill]
  unfold fillUnread orInsert
  cases lookup key fields <;> rfl

theorem fillGroup_fst : (fillGroup cid fields).1 = groupFiller.fill fields := by
  unfold fillGroup
  split
  · rename_i absent
    exact (missing_fill_absent absent).symm
  · rename_i found
    have idle : groupFiller.fill fields = fields := missing_fill_present found
    rw [idle]
    split <;> rfl

variable (orderly : templates.Orderly)

theorem fillClass_fill :
    fillClass templates fields = (classFiller orderly).fill fields := by
  unfold fillClass
  split
  · rename_i found
    exact (missing_fill_present found).symm
  · rename_i absent
    rw [classFiller,missing_fill_absent absent]

theorem modifyObject_fst {change : Fields → Fields × List String}
    (independent : Independent fillers) (inner : ∀ fields, (change fields).1 = fillAll fillers fields) :
    (modifyObject key change fields).1 = (object key fillers independent).fill fields := by
  unfold modifyObject
  split
  · rename_i found
    simp [fill,object,member,objectChange,found,inner]
  · rename_i other
    cases found : lookup key fields with
    | none => simp [fill,object,member,found,insertSome]
    | some value =>
      cases value with
      | obj inner => exact absurd found (other inner)
      | _ => simp [fill,object,member,objectChange,found,insertSome]

theorem fillPath_fst (count : Nat) (path : Json) :
    (fillPath templates cid (count == 1) path).1 = complete (pathFillers orderly count) path := by
  cases path with
  | obj fields =>
    have source (inner : Fields) (warning : String) : (fillUnread "source" templates.source warning inner).1 =
        fillAll [fixed "source" templates.source orderly.source] inner := fillUnread_fst _
    simp only [fillPath,complete,modifyObject_fst (List.pairwise_singleton _ _) fun inner => source inner _]
    unfold pathFillers
    split <;> simp [fillAll,fixed_fill]
  | _ => rfl

theorem fillPaths_fst :
    (fillPaths templates cid fields).1 =
      (items "paths" (pathFillers orderly) (pathFillers_independent orderly)).fill fields := by
  unfold fillPaths
  split
  · rename_i paths found
    simp [fill,Filler.items,member,itemsChange,found,fillPath_fst orderly,Function.comp_def]
  · rename_i other
    cases found : lookup "paths" fields with
    | none => simp [fill,Filler.items,member,found,insertSome]
    | some value =>
      cases value with
      | arr paths => exact absurd found (other paths)
      | _ => simp [fill,Filler.items,member,itemsChange,found,insertSome]

theorem fillConnection_fst (conn : Json) :
    (fillConnection templates conn).1 = complete (connectionFillers orderly) conn := by
  cases conn with
  | obj fields =>
    have mode (inner : Fields) : (orInsert "mode" templates.mode inner,([] : List String)).1 =
        fillAll [fixed "mode" templates.mode orderly.mode] inner := fixed_fill.symm
    simp only [fillConnection,complete,fillPaths_fst orderly,modifyObject_fst (List.pairwise_singleton _ _) mode]
    simp [fillAll,connectionFillers,fillClass_fill orderly,fillGroup_fst,fixed_fill,
      fillUnread_fst orderly.runtimeUpdate]
  | _ => rfl

theorem applyTemplates_fst (object : Ordered (.obj fields)) :
    (applyTemplates (.obj fields)).1 =
      .obj ((connectionsFiller (Templates.of_orderly object)).fill fields) := by
  have orderly := Templates.of_orderly object
  cases found : lookup "connections" fields with
  | none => simp [applyTemplates,arrAt,Json.get,found,connectionsFiller,fill,Filler.items,member,insertSome]
  | some value =>
    cases value with
    | arr conns =>
      simp [applyTemplates,arrAt,Json.get,Json.asArr,found,connectionsFiller,fill,Filler.items,member,itemsChange,
        fillConnection_fst orderly,Function.comp_def]
    | _ =>
      simp [applyTemplates,arrAt,Json.get,Json.asArr,found,connectionsFiller,fill,Filler.items,member,itemsChange,insertSome]

end Filling

theorem templates_again (kept : ∀ key, key ≠ "connections" → lookup key filled = lookup key fields) :
    Templates.of (.obj filled) = Templates.of (.obj fields) := by
  have defaults : (Json.obj filled).get "defaults" = (Json.obj fields).get "defaults" := kept _ (by decide)
  have apps : (Json.obj filled).get "apps" = (Json.obj fields).get "apps" := kept _ (by decide)
  simp only [Templates.of,arrAt,defaults,apps]

theorem applyTemplates_elsewhere (ordered : Ordered doc) {key : String} (different : key ≠ "connections") :
    (applyTemplates doc).1.get key = doc.get key := by
  cases doc with
  | obj fields =>
    rw [applyTemplates_fst ordered]
    exact lookup_insertSome_ne different.symm
  | _ => rfl

theorem applyTemplates_grows (ordered : Ordered doc) : Extended doc (applyTemplates doc).1 := by
  cases doc with
  | obj fields =>
    rw [applyTemplates_fst ordered]
    exact fill_extends _ fields
  | _ => exact .same _

theorem applyTemplates_again (ordered : Ordered doc) : (applyTemplates (applyTemplates doc).1).1 = (applyTemplates doc).1 := by
  cases doc with
  | obj fields =>
    have filled := fill_ordered (connectionsFiller (Templates.of_orderly ordered)) ordered
    have templates : Templates.of (.obj ((connectionsFiller (Templates.of_orderly ordered)).fill fields)) =
        Templates.of (.obj fields) := templates_again fun key different => lookup_insertSome_ne different.symm
    rw [applyTemplates_fst ordered,applyTemplates_fst filled]
    have same : connectionsFiller (Templates.of_orderly filled) = connectionsFiller (Templates.of_orderly ordered) := by
      congr 1
    rw [same]
    exact congrArg Json.obj (fill_again _ ordered)
  | _ => rfl

theorem applyTemplates_without (none : doc.arrAt "connections" = none) : (applyTemplates doc).1 = doc := by
  unfold applyTemplates
  split
  · rename_i there
    rw [none] at there
    cases there
  · rfl

def inConnection (i : Nat) (path : List Step) : List Step := .key "connections" :: .index i :: path

theorem applyTemplates_extends (doc : Document) :
    (∀ i path value, doc.json.valueAt (inConnection i path) = some value →
      ∃ later, (applyTemplates doc.json).1.valueAt (inConnection i path) = some later ∧ Extended value later ∧
        (value.isPlain = true → later = value)) ∧
    (∀ i path later, (applyTemplates doc.json).1.valueAt (inConnection i path) = some later →
      doc.json.valueAt (inConnection i path) = none →
      ∃ start key rest fields, path = start ++ .key key :: rest ∧
        doc.json.valueAt (inConnection i start) = some (.obj fields) ∧ lookup key fields = none) ∧
    (∀ key, key ≠ "connections" → (applyTemplates doc.json).1.get key = doc.json.get key) ∧
    (doc.json.arrAt "connections" = none → (applyTemplates doc.json).1 = doc.json) ∧
    (applyTemplates (applyTemplates doc.json).1).1 = (applyTemplates doc.json).1 := by
  have grown := applyTemplates_grows doc.ordered
  refine ⟨?_,?_,fun key => applyTemplates_elsewhere doc.ordered,applyTemplates_without,applyTemplates_again doc.ordered⟩
  · intro i path value found
    obtain ⟨later,there,extended⟩ := grown.valueAt found
    exact ⟨later,there,extended,extended.plain⟩
  · intro i path later found absent
    obtain ⟨start,key,rest,fields,split,object,missing⟩ := grown.added found absent
    rcases start with _ | ⟨first,_ | ⟨second,start⟩⟩
    · -- Without connections nothing is added at all.
      cases split
      have shape : doc.json = .obj fields := Option.some.inj object
      have none : doc.json.arrAt "connections" = none := by
        rw [shape]
        simp [arrAt,Json.get,missing]
      rw [applyTemplates_without none,absent] at found
      cases found
    · cases split
    · cases split
      exact ⟨start,key,rest,fields,rfl,object,missing⟩

end Scg.Lite
