/-
What the user chose for a host outlives every later write of its record.

Every writer of a host's record goes through the one merging `upsert`, which keeps the anchor, the
app and the name that the incoming record leaves empty.  It has no such rule for the controller
type: a record that says nothing about it says Auto, and Auto is stored.
-/
import Dish.Proofs.MoonlightForget

namespace Dish.Moonlight

open Steps MoonlightHostRepository

/-- What is kept of the user's choices about a host. -/
structure Picks where
  serverCertPem : String := ""
  lastAppId : String := ""
  lastAppName : String := ""
  controllerType : Int := kControllerTypeAuto.toNat
  deriving DecidableEq

def MoonlightHost.picks (host : MoonlightHost) : Picks :=
  ⟨host.serverCertPem, host.lastAppId, host.lastAppName, host.controllerType⟩

/-- The calls that write a host's record.  A pairing is there with the certificate it verified. -/
inductive HostCall where
  | addManualHost (address name : String) (httpPort httpsPort : Int)
  | rememberDestination (uuid : String)
  | setLastApp (uuid appId appName : String)
  | setControllerType (uuid : String) (type : Int)
  | paired (uuid serverCertPem : String)

/-- The host the call is a choice about. -/
def HostCall.chosen : HostCall → Option String
  | .setLastApp uuid _ _ | .setControllerType uuid _ | .paired uuid _ => some uuid
  | _ => none

namespace Manager

variable {m : Manager} {uuid : String}

def write (m : Manager) : Outside × HostCall → Manager
  | (o, .addManualHost address name httpPort httpsPort) =>
    m.addManualHost o address name httpPort httpsPort
  | (_, .rememberDestination uuid) => m.rememberDestination uuid
  | (_, .setLastApp uuid appId appName) => m.setLastApp uuid appId appName
  | (_, .setControllerType uuid type) => m.setControllerType uuid type
  | (_, .paired uuid serverCertPem) =>
    { m with flow := { m.flow with hostUuid := uuid } }.onPairingFinished true "" serverCertPem

def picks (m : Manager) (uuid : String) : Picks := (m.repo.get uuid).elim {} MoonlightHost.picks

/-- A host that is added again has no controller type to lose, and nothing at all if the address is
one its record cannot be read back with. -/
def Spares (m : Manager) (call : Outside × HostCall) : Prop :=
  match call.2 with
  | .addManualHost address .. => ∀ held ∈ m.repo.get (placeholderUuidFor address),
      held.controllerType = kControllerTypeAuto.toNat ∧ (address = "" → held.picks = {})
  | _ => True

theorem probe_repo (o : Outside) : (m.probe o uuid).repo = m.repo := by
  unfold probe
  repeat' split
  all_goals rfl

theorem picks_upsert_ne {host : MoonlightHost} (ne : uuid ≠ host.uuid) :
    picks { m with repo := m.repo.upsert host } uuid = m.picks uuid := by
  unfold picks
  rw [get_upsert_ne ne]

/-- A record that makes no choice leaves the ones on file, if it loses no controller type. -/
theorem picks_upsert {host : MoonlightHost} (named : host.uuid ≠ "") (blank : host.picks = {})
    (spared : ∀ held ∈ m.repo.get host.uuid,
      held.controllerType = kControllerTypeAuto.toNat ∧ (host.address = "" → held.picks = {})) :
    picks { m with repo := m.repo.upsert host } uuid = m.picks uuid := by
  by_cases same : uuid = host.uuid
  · subst same
    obtain ⟨cert, app, appName, type⟩ : host.serverCertPem = "" ∧ host.lastAppId = "" ∧
        host.lastAppName = "" ∧ host.controllerType = kControllerTypeAuto.toNat := by
      simpa [MoonlightHost.picks] using blank
    unfold picks
    rw [get_upsert_self named]
    show _ = (m.repo.load host.uuid).elim {} MoonlightHost.picks
    cases found : m.repo.load host.uuid with
    | none =>
      by_cases lost : host.address = "" <;> simp [MoonlightHost.fromJson, MoonlightHost.picks, named,
        lost, cert, app, appName, type, migrateControllerType]
    | some held =>
      obtain ⟨auto, nothing⟩ := spared held found
      by_cases lost : host.address = ""
      · simp [MoonlightHost.fromJson, merge, lost, nothing lost]
      · simp [MoonlightHost.fromJson, merge, MoonlightHost.picks, named, lost, cert, app, type, auto,
          migrateControllerType]
  · exact picks_upsert_ne same

theorem picks_write (call : Outside × HostCall) (spares : m.Spares call)
    (other : call.2.chosen ≠ some uuid) : (m.write call).picks uuid = m.picks uuid := by
  obtain ⟨o, call⟩ := call
  have away : ∀ {chosen}, call.chosen = some chosen → uuid ≠ chosen :=
    fun is same => other (same ▸ is)
  cases call with
  | addManualHost address name httpPort httpsPort =>
    have placed : placeholderUuidFor address ≠ "" := by
      simp [placeholderUuidFor, kAddressUuidPrefix]
    unfold write addManualHost picks
    rw [probe_repo]
    exact picks_upsert (m := m) placed rfl spares
  | rememberDestination key =>
    simp only [write, rememberDestination]
    split
    · rfl
    · rename_i unknown
      split
      · rfl
      · refine picks_upsert (fun named => unknown (.inl named)) rfl fun held found => ?_
        exact absurd (.inr (Option.isSome_of_eq_some found)) unknown
  | setLastApp key | setControllerType key =>
    simp only [write, setLastApp, setControllerType]
    split
    · rfl
    · rename_i host found
      exact picks_upsert_ne (m.repo.load_filed key host found ▸ away rfl)
  | paired key serverCertPem =>
    have kept := about_onPairingFinished { m with flow := { m.flow with hostUuid := key } }
      (away rfl) true "" serverCertPem
    exact congrArg (·.host.elim {} MoonlightHost.picks) kept

/-- **Adding a host again keeps what the user chose.**  Whatever records are written, from any state,
the anchor, the app and the controller type of a host stay as they are until one of the calls is a
choice about that host. -/
theorem picks_stay (m : Manager) (uuid : String) (calls : List (Outside × HostCall))
    (spares : Along write Spares m calls) (other : ∀ call ∈ calls, call.2.chosen ≠ some uuid) :
    (run write m calls).picks uuid = m.picks uuid := by
  have steps := along_and.mpr ⟨spares, along_of_forall other⟩
  exact run_keeps (I := fun now => now.picks uuid = m.picks uuid)
    (fun now call same ok => (picks_write call ok.1 ok.2).trans same) rfl steps

theorem picks_stay_app :
    let add : Outside × HostCall := ({}, .addManualHost "10.0.0.2" "" 48000 48010)
    let m := run write {} [add, ({}, .setLastApp "addr:10.0.0.2" "1" "Desktop")]
    (run write m [add]).picks "addr:10.0.0.2" = { lastAppId := "1", lastAppName := "Desktop" } := by
  intro add m
  have kept : m.picks "addr:10.0.0.2" = { lastAppId := "1", lastAppName := "Desktop" } := by
    decide +kernel
  have spares : ∀ held ∈ m.repo.get (placeholderUuidFor "10.0.0.2"),
      held.controllerType = kControllerTypeAuto.toNat ∧ ("10.0.0.2" = "" → held.picks = {}) := by
    decide +kernel
  rw [← kept]
  exact picks_stay m _ [add] ⟨spares, trivial⟩ (by simp [add, HostCall.chosen])

/-- The user picks a controller type for the host and adds its address again: the pick is gone. -/
theorem type_pick_lost :
    let add : Outside × HostCall := ({}, .addManualHost "10.0.0.2" "" 47989 47984)
    let m := run write {} [add, ({}, .setControllerType "addr:10.0.0.2" kControllerTypePs.toNat)]
    m.picks "addr:10.0.0.2" = { controllerType := kControllerTypePs.toNat } ∧
      (run write m [add]).picks "addr:10.0.0.2" = {} := by
  decide +kernel

end Manager

end Dish.Moonlight
