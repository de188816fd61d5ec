/-
`SatelliteSharedKeyRepository`: one hex key per satellite id, kept in the desktop
keyring when a Secret Service answers and in the 0600 settings file otherwise.

The keyring is a store that can let any call down.  What it does during one call
of the repository is an `Answers` record: whether it is usable at all, whether a
read finds what is held, whether a write is taken, which items a search lists and
which of them can be erased.  A refused write or erase leaves the item as it was.
The settings file always does as it is told.  In both stores an empty string reads
as no value.
-/
import Mathlib.Data.List.AList

namespace Dish

variable {Id : Type} [DecidableEq Id]

/-- A string-valued store keyed by satellite id. -/
abbrev KeyTable (Id : Type) := AList fun _ : Id => String

/-- `settings_->value(key).toString()`: the text held, empty when there is none. -/
def KeyTable.text (t : KeyTable Id) (id : Id) : String := (t.lookup id).getD ""

/-- The text held, with the empty one read as none. -/
def KeyTable.value (t : KeyTable Id) (id : Id) : Option String :=
  if t.text id = "" then none else some (t.text id)

/-! ### `SecretServiceStore` -/

/-- How the Secret Service behaves during one repository call. -/
structure Answers (Id : Type) where
  available : Bool
  reads : Bool
  writes : Bool
  listed : Id → Bool
  erases : Id → Bool

namespace SecretServiceStore

variable (w : Answers Id) (keyring : KeyTable Id)

def read (id : Id) : Option String :=
  if w.available && w.reads then keyring.value id else none

/-- The keyring after a write, and whether the write was taken. -/
def write (id : Id) (secretHex : String) : KeyTable Id × Bool :=
  if w.available && w.writes then (keyring.insert id secretHex, true) else (keyring, false)

def erase (id : Id) : KeyTable Id :=
  if w.available && w.erases id then keyring.erase id else keyring

def ids : List Id :=
  if w.available then keyring.keys.filter w.listed else []

end SecretServiceStore

/-! ### The repository -/

/-- The two stores behind the repository. -/
structure KeyStores (Id : Type) where
  keyring : KeyTable Id
  settings : KeyTable Id

/-- A fresh install. -/
def KeyStores.empty : KeyStores Id := ⟨∅, ∅⟩

namespace SatelliteSharedKeyRepository

variable (w : Answers Id) (s : KeyStores Id)

def keyringUsable : Bool := w.available

/-- `get`: what is returned, and the stores after its sweep or migration. -/
def get (id : Id) : Option String × KeyStores Id :=
  if keyringUsable w then
    match SecretServiceStore.read w s.keyring id with
    | some fromKeyring =>
      -- the file copy behind a keyring hit is swept
      let swept := if s.settings.text id = "" then s.settings else s.settings.erase id
      (some fromKeyring, { s with settings := swept })
    | none =>
      let legacy := s.settings.text id
      if legacy = "" then (none, s)
      else
        match SecretServiceStore.write w s.keyring id legacy with
        | (keyring, true) => (some legacy, ⟨keyring, s.settings.erase id⟩)
        | (keyring, false) => (some legacy, ⟨keyring, s.settings⟩)
  else (s.settings.value id, s)

def put (id : Id) (keyHex : String) : KeyStores Id :=
  if keyringUsable w then
    match SecretServiceStore.write w s.keyring id keyHex with
    | (keyring, true) => ⟨keyring, s.settings.erase id⟩
    | (keyring, false) => ⟨keyring, s.settings.insert id keyHex⟩
  else { s with settings := s.settings.insert id keyHex }

def remove (id : Id) : KeyStores Id :=
  { keyring := if keyringUsable w then SecretServiceStore.erase w s.keyring id else s.keyring
    settings := s.settings.erase id }

def clear : KeyStores Id :=
  { keyring :=
      if keyringUsable w then
        (SecretServiceStore.ids w s.keyring).foldl (SecretServiceStore.erase w) s.keyring
      else s.keyring
    settings := ∅ }

end SatelliteSharedKeyRepository

/-! ### Calls -/

/-- One call of the repository. -/
inductive KeyOp (Id : Type) where
  | get (id : Id)
  | put (id : Id) (keyHex : String)
  | remove (id : Id)
  | clear

/-- A call together with how the keyring behaves during it. -/
structure KeyCall (Id : Type) where
  op : KeyOp Id
  answers : Answers Id

/-- The stores after a call. -/
def KeyStores.step (s : KeyStores Id) (c : KeyCall Id) : KeyStores Id :=
  match c.op with
  | .get id => (SatelliteSharedKeyRepository.get c.answers s id).2
  | .put id keyHex => SatelliteSharedKeyRepository.put c.answers s id keyHex
  | .remove id => SatelliteSharedKeyRepository.remove c.answers s id
  | .clear => SatelliteSharedKeyRepository.clear c.answers s

end Dish
