import Scg.Library.Json

namespace Scg.Lite
open Json (Fields strAt lookup insert insertSome same)

mutual

-- Objects are merged key by key; any other value replaces the one below it.
def deepMerge (base : Json) : Json → Json
  | .obj fields =>
    match base with
    | .obj own => .obj (mergeFields own fields)
    | _ => .obj fields
  | value => value

def mergeFields (own : Fields) : Fields → Fields
  | [] => own
  | field :: rest => mergeFields (mergeField own field) rest

def mergeField (own : Fields) : String × Json → Fields
  | (key,value) =>
    match lookup key own with
    | some existing => insert key (deepMerge existing value) own
    | none => insert key value own

end

def defaultRuntimeUpdate : Json := .obj [
  ("hot_reload_fields",.arr [.str "paths"]),
  ("mode",.str "drain_and_replace"),
  ("restart_required_fields",.arr [.str "ingress.endpoint.port",.str "protection.profile_ref"])]

def defaultEgressSource : Json := .obj [("ip",.str "auto"),("port",.str "auto")]

structure Templates where
  enabled : Json
  transparent : Json
  runtimeUpdate : Json
  source : Json
  outInterface : Json
  mode : Json
  appClass : Fields

def indexApp (index : Fields) (app : Json) : Fields :=
  match app.strAt "app_id",app.get "default_traffic_class" with
  | some id,some trafficClass => insert id trafficClass index
  | _,_ => index

def Templates.of (merged : Json) : Templates :=
  let connection (key : String) := ((merged.get "defaults").bind (Json.get "connection")).bind (Json.get key)
  let protection (key : String) := ((merged.get "defaults").bind (Json.get "protection")).bind (Json.get key)
  {enabled := (connection "enabled").getD (.bool true)
   transparent := (connection "transparent").getD (.bool false)
   runtimeUpdate := (connection "runtime_update").getD defaultRuntimeUpdate
   source := (connection "default_egress_source").getD defaultEgressSource
   outInterface := (connection "default_out_interface").getD (.str "eth0")
   mode := (protection "default_mode").getD (.str "full")
   appClass := ((merged.arrAt "apps").getD []).foldl indexApp []}

def orInsert (key : String) (value : Json) (fields : Fields) : Fields :=
  match lookup key fields with
  | some _ => fields
  | none => insert key value fields

def fillUnread (key : String) (template : Json) (warning : String) (fields : Fields) : Fields × List String :=
  match lookup key fields with
  | none => (insert key template fields,[])
  | some value => (fields,if same value template then [] else [warning])

def fillGroup (cid : String) (fields : Fields) : Fields × List String :=
  match lookup "connection_group_id" fields,lookup "connection_id" fields with
  | none,id => (insertSome "connection_group_id" id fields,[])
  | some group,id =>
    if id.any (same group) then (fields,[])
    else (fields,[s!"connection '{cid}': connection_group_id is not yet honoured by the data plane (no consumer of connection grouping)"])

def fillClass (templates : Templates) (fields : Fields) : Fields :=
  match lookup "traffic_class" fields with
  | some _ => fields
  | none => insertSome "traffic_class"
      (((lookup "app_id" fields).bind Json.asStr).bind fun app => lookup app templates.appClass) fields

def modifyObject (key : String) (change : Fields → Fields × List String) (fields : Fields) : Fields × List String :=
  match lookup key fields with
  | some (.obj inner) =>
    let (inner,warnings) := change inner
    (insert key (.obj inner) fields,warnings)
  | _ => (fields,[])

def fillPath (templates : Templates) (cid : String) (single : Bool) : Json → Json × List String
  | .obj fields =>
    let fields :=
      if single then orInsert "priority" (.uint 0) (orInsert "role" (.str "primary") fields) else fields
    let (fields,sourceWarnings) := modifyObject "egress"
      (fillUnread "source" templates.source
        s!"connection '{cid}': egress.source is not yet honoured by the data plane (no bind-source support; the OS chooses the source address)")
      fields
    let pinned := (lookup "routing" fields).bind (Json.get "out_interface")
    let interfaceWarnings :=
      if pinned.any fun iface => !same iface templates.outInterface then
        [s!"connection '{cid}': routing.out_interface is not yet honoured by the data plane (no interface pinning; the routing table decides)"]
      else []
    (.obj (orInsert "routing" (.obj [("out_interface",templates.outInterface)]) fields),sourceWarnings ++ interfaceWarnings)
  | other => (other,[])

def fillPaths (templates : Templates) (cid : String) (fields : Fields) : Fields × List String :=
  match lookup "paths" fields with
  | some (.arr paths) =>
    let filled := paths.map (fillPath templates cid (paths.length == 1))
    (insert "paths" (.arr (filled.map Prod.fst)) fields,filled.flatMap Prod.snd)
  | _ => (fields,[])

def fillConnection (templates : Templates) : Json → Json × List String
  | .obj fields =>
    let cid := ((lookup "connection_id" fields).bind Json.asStr).getD "<unnamed>"
    let fields := orInsert "transparent" templates.transparent (orInsert "enabled" templates.enabled fields)
    let (fields,groupWarnings) := fillGroup cid fields
    let fields := fillClass templates fields
    let (fields,updateWarnings) := fillUnread "runtime_update" templates.runtimeUpdate
      s!"connection '{cid}': runtime_update is not yet honoured by the data plane (hot-reload policy is field-aware and global, not per-connection)"
      fields
    let (fields,_) := modifyObject "protection" (fun inner => (orInsert "mode" templates.mode inner,[])) fields
    let (fields,pathWarnings) := fillPaths templates cid fields
    (.obj fields,groupWarnings ++ updateWarnings ++ pathWarnings)
  | other => (other,[])

def applyTemplates (merged : Json) : Json × List String :=
  match merged,merged.arrAt "connections" with
  | .obj fields,some connections =>
    let filled := connections.map (fillConnection (Templates.of merged))
    (.obj (insert "connections" (.arr (filled.map Prod.fst)) fields),filled.flatMap Prod.snd)
  | _,_ => (merged,[])

section Kept
end Kept

def protectionName (conn : Json) : Option String := (conn.get "protection").bind (strAt "sni")

theorem applyTemplates_connections (found : (applyTemplates merged).1.arrAt "connections" = some conns) :
    ∃ given, merged.arrAt "connections" = some given ∧
      conns = given.map fun conn => (fillConnection (Templates.of merged) conn).1 := by
  cases merged with
  | obj fields =>
    cases there : Json.arrAt "connections" (.obj fields) with
    | none => simp [applyTemplates,there] at found
    | some given =>
      simp only [applyTemplates,there] at found
      simpa [Json.arrAt,Json.get,Json.asArr,Function.comp_def] using found.symm
  | _ => cases found

end Scg.Lite
