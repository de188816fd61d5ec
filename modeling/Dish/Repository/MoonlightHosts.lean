/-
The remembered Moonlight hosts, and who a host is.

A host's record is kept under its uuid and carries the pairing anchor, the server certificate the
pairing handshake verified.  A record is read back through the parser that drops one without a
uuid or an address and that normalises the stored controller type, so an entry that cannot be read
is as good as none.  The JSON text in between is not modelled: the settings hold what was written.
-/
import Mathlib.Logic.Function.Basic
import Dish.Core.MoonlightPadSlots

namespace Dish.Moonlight

/-! ### Identity -/

def kAddressUuidPrefix : String := "addr:"

def placeholderUuidFor (address : String) : String := kAddressUuidPrefix ++ address

def isAddressPlaceholder (uuid : String) : Bool :=
  uuid.toList.take kAddressUuidPrefix.toList.length == kAddressUuidPrefix.toList

/-- Whether the host answered with a uniqueid that is not the one remembered for it.  Nothing
remembered, nothing reported and a placeholder are not evidence of a change. -/
def hostIdentityChanged (remembered reported : String) : Bool :=
  let haveRemembered := remembered ≠ "" ∧ !isAddressPlaceholder remembered
  let haveReported := reported ≠ ""
  haveRemembered ∧ haveReported ∧ reported ≠ remembered

@[simp] theorem isAddressPlaceholder_placeholder (address : String) :
    isAddressPlaceholder (placeholderUuidFor address) = true := by
  simp [isAddressPlaceholder, placeholderUuidFor]

theorem hostIdentityChanged_iff {remembered reported : String} :
    hostIdentityChanged remembered reported = true ↔
      (remembered ≠ "" ∧ isAddressPlaceholder remembered = false) ∧ reported ≠ "" ∧
        reported ≠ remembered := by
  simp [hostIdentityChanged]

/-! ### Records -/

structure MoonlightHost where
  uuid : String := ""
  name : String := ""
  address : String := ""
  httpPort : Int := 47989
  httpsPort : Int := 47984
  serverCertPem : String := ""
  lastAppId : String := ""
  lastAppName : String := ""
  controllerType : Int := kControllerTypeAuto.toNat
  deriving Repr, DecidableEq

/-- The anchor is there, so the host was paired. -/
def MoonlightHost.paired (host : MoonlightHost) : Bool := host.serverCertPem ≠ ""

def MoonlightHost.fromJson (host : MoonlightHost) : Option MoonlightHost :=
  if host.uuid = "" ∨ host.address = "" then none
  else some { host with controllerType := migrateControllerType host.controllerType }

/-- One slot's standing binding, kept across restarts. -/
structure MoonlightBinding where
  slotId : String := ""
  hostUuid : String := ""
  controllerType : Int := kControllerTypeAuto.toNat
  padIdentity : String := ""
  deriving Repr, DecidableEq

def MoonlightBinding.isValid (binding : MoonlightBinding) : Bool :=
  binding.slotId ≠ "" ∧ binding.hostUuid ≠ ""

def MoonlightBinding.fromJson (binding : MoonlightBinding) : Option MoonlightBinding :=
  if binding.isValid then
    some { binding with controllerType := migrateControllerType binding.controllerType }
  else none

/-- The settings.  Every record is filed under its own uuid: the store is only written by
`upsert`, and a file of an older shape is read by the uuids of its rows. -/
structure MoonlightHostRepository where
  hosts : String → Option MoonlightHost := fun _ => none
  bindings : List MoonlightBinding := []
  filed : ∀ key host, hosts key = some host → host.uuid = key := by simp

namespace MoonlightHostRepository

/-- The hosts as they are read back. -/
def load (repo : MoonlightHostRepository) : String → Option MoonlightHost :=
  fun key => (repo.hosts key).bind MoonlightHost.fromJson

section
variable (repo : MoonlightHostRepository)

theorem load_filed (key : String) (host : MoonlightHost)
    (h : repo.load key = some host) : host.uuid = key := by
  obtain ⟨stored, found, read⟩ := Option.bind_eq_some_iff.mp h
  have filed := repo.filed key stored found
  unfold MoonlightHost.fromJson at read
  split at read
  · cases read
  · cases read
    exact filed

def get (repo : MoonlightHostRepository) (uuid : String) : Option MoonlightHost := repo.load uuid

/-- The record with the fields the caller left empty taken from the one on file. -/
def merge (held host : MoonlightHost) : MoonlightHost :=
  { host with
    serverCertPem := if host.serverCertPem = "" then held.serverCertPem else host.serverCertPem
    lastAppId := if host.lastAppId = "" then held.lastAppId else host.lastAppId
    lastAppName := if host.lastAppId = "" then held.lastAppName else host.lastAppName
    name := if host.name = "" then held.name else host.name }

def upsert (repo : MoonlightHostRepository) (host : MoonlightHost) : MoonlightHostRepository :=
  if host.uuid = "" then repo
  else
    let merged := match repo.load host.uuid with
      | none => host
      | some held => merge held host
    { hosts := Function.update repo.load host.uuid (some merged)
      bindings := repo.bindings
      filed := by
        intro key found h
        by_cases same : key = host.uuid
        · subst same
          rw [Function.update_self, Option.some.injEq] at h
          subst h
          show (match repo.load host.uuid with
            | none => host
            | some held => merge held host).uuid = host.uuid
          split <;> rfl
        · rw [Function.update_of_ne same] at h
          exact repo.load_filed key found h }

def remove (repo : MoonlightHostRepository) (uuid : String) : MoonlightHostRepository :=
  { hosts := Function.update repo.load uuid none
    bindings := repo.bindings
    filed := by
      intro key found h
      by_cases same : key = uuid
      · subst same
        rw [Function.update_self] at h
        cases h
      · rw [Function.update_of_ne same] at h
        exact repo.load_filed key found h }

def loadBindings (repo : MoonlightHostRepository) : List MoonlightBinding :=
  repo.bindings.filterMap MoonlightBinding.fromJson

def binding (repo : MoonlightHostRepository) (slotId : String) : Option MoonlightBinding :=
  repo.loadBindings.find? (·.slotId = slotId)

/-- The list with the binding in the place of the one its slot holds, or at the end. -/
def place (binding : MoonlightBinding) : List MoonlightBinding → List MoonlightBinding
  | [] => [binding]
  | held :: rest =>
    if held.slotId = binding.slotId then binding :: rest else held :: place binding rest

def rememberBinding (repo : MoonlightHostRepository) (binding : MoonlightBinding) :
    MoonlightHostRepository :=
  if !binding.isValid then repo
  else { repo with bindings := place binding repo.loadBindings }

def forgetBinding (repo : MoonlightHostRepository) (slotId : String) : MoonlightHostRepository :=
  { repo with bindings := repo.loadBindings.filter (·.slotId ≠ slotId) }

def forgetBindingsForHost (repo : MoonlightHostRepository) (uuid : String) :
    MoonlightHostRepository :=
  { repo with bindings := repo.loadBindings.filter (·.hostUuid ≠ uuid) }

/-! ### What a write leaves -/

theorem migrateControllerType_idem (stored : Int) :
    migrateControllerType (migrateControllerType stored) = migrateControllerType stored := by
  unfold migrateControllerType
  by_cases known : stored = kControllerTypeXbox.toNat ∨ stored = kControllerTypePs.toNat ∨
      stored = kControllerTypeNintendo.toNat
  · rw [if_pos known, if_pos known]
  · rw [if_neg known]
    decide

theorem fromJson_idem {host read : MoonlightHost} (h : host.fromJson = some read) :
    read.fromJson = some read := by
  unfold MoonlightHost.fromJson at h ⊢
  split at h
  · cases h
  · rename_i there
    simp only [Option.some.injEq] at h
    subst h
    rw [if_neg there]
    simp only [migrateControllerType_idem]

@[simp] theorem load_bind (key : String) :
    (repo.load key).bind MoonlightHost.fromJson = repo.load key := by
  unfold load
  cases repo.hosts key with
  | none => rfl
  | some host =>
    cases read : host.fromJson with
    | none => simp [read]
    | some found => simp [read, fromJson_idem read]

theorem get_upsert_ne {repo : MoonlightHostRepository} {host : MoonlightHost} {uuid : String}
    (h : uuid ≠ host.uuid) : (repo.upsert host).get uuid = repo.get uuid := by
  unfold upsert
  split
  · rfl
  · show ((Function.update repo.load host.uuid _) uuid).bind MoonlightHost.fromJson = _
    rw [Function.update_of_ne h, load_bind]
    rfl

theorem get_upsert_self {repo : MoonlightHostRepository} {host : MoonlightHost}
    (named : host.uuid ≠ "") :
    (repo.upsert host).get host.uuid =
      (match repo.load host.uuid with
      | none => host
      | some held => merge held host).fromJson := by
  unfold upsert
  rw [if_neg named]
  show ((Function.update repo.load host.uuid _) host.uuid).bind MoonlightHost.fromJson = _
  rw [Function.update_self]
  rfl

@[simp] theorem get_remove_self (uuid : String) :
    (repo.remove uuid).get uuid = none := by
  show ((Function.update repo.load uuid none) uuid).bind MoonlightHost.fromJson = none
  rw [Function.update_self]
  rfl

theorem get_rememberBinding (binding : MoonlightBinding) :
    (repo.rememberBinding binding).get = repo.get := by
  unfold rememberBinding
  split <;> rfl

theorem isSome_of_remove {repo : MoonlightHostRepository} {uuid key : String}
    (h : ((repo.remove uuid).get key).isSome = true) : (repo.get key).isSome = true := by
  by_cases same : key = uuid
  · rw [same, get_remove_self] at h
    cases h
  · change (((Function.update repo.load uuid none) key).bind MoonlightHost.fromJson).isSome = _ at h
    rw [Function.update_of_ne same, load_bind] at h
    exact h

end

end MoonlightHostRepository

end Dish.Moonlight
