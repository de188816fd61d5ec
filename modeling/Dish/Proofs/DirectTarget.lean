/-
Where the manager says that feedback can go.

A model is reported claimed while its controller has a synthetic id.  The id outlives the claim on
the way back to Standard: it stays as a placeholder until the framework device is there again.  Apart
from that wait the controllers with an id are those in Direct, and the ledger has their claims and
their workers.
-/
import Dish.Proofs.Stranded

namespace Dish

open Steps

namespace UsbManager

variable {m m' : UsbManager} {key : Int} {c : UsbController}

/-- The ids of all controllers fit their phases. -/
def PlaceholdersFit (m : UsbManager) : Prop :=
  ∀ key c, m.controllers.lookup key = some c → SyntheticFits c

theorem PlaceholdersFit.store {next : Option UsbController} (fits : m.PlaceholdersFit)
    (fit : ∀ n, next = some n → SyntheticFits n) : (m.store key next).PlaceholdersFit := by
  intro other c there
  rcases lookup_store there with ⟨rfl, now⟩ | ⟨-, was⟩
  · exact fit c now
  · exact fits other c was

theorem PlaceholdersFit.of_same (fits : m.PlaceholdersFit)
    (same : m'.controllers = m.controllers) : m'.PlaceholdersFit := by
  intro key c there
  rw [same] at there
  exact fits key c there

theorem eventClosed_placeholdersFit (key : Int) :
    EventClosed key fun m m' => m.PlaceholdersFit → m'.PlaceholdersFit where
  refl _ := id
  trans ab bc := bc ∘ ab
  store := by
    intro m c event there fits
    refine fits.store fun n next => ?_
    have moves := c.reduce_moves event
    rw [next] at moves
    exact moves.syntheticFits (fits key c there)
  tell m call fits := fits.of_same (sameBooks_tell m call).controllers
  front same fits := fits.of_same same.controllers

theorem callClosed_placeholdersFit :
    CallClosed fun m m' => m.PlaceholdersFit → m'.PlaceholdersFit where
  refl _ := id
  trans ab bc := bc ∘ ab
  event m key event _ := (eventClosed_placeholdersFit key).applyEvent m event
  track := by
    intro m device event _ _ fits
    refine (eventClosed_placeholdersFit _).applyEvent _ event (fits.store ?_)
    rintro n ⟨⟩ held
    exact absurd held (by simp [newController])
  beside same fits := fits.of_same same.controllers

/-- The controller of the model is on its way back to Standard and still has its id. -/
def KeepsPlaceholder (m : UsbManager) (key : Int) : Prop :=
  ∃ c, m.controllers.lookup key = some c ∧
    (c.phase = .awaitingFramework ∨ c.phase = .restoreStuck) ∧ c.syntheticId.isSome

/-- The gateway holds an open claim that was made for the model. -/
def HoldsClaimFor (m : UsbManager) (vendorId productId : Int) : Prop :=
  ∃ id ∈ m.openClaims, m.claimedFor id = some (vpKey vendorId productId)

section
variable (books : Ledger none m)
include books

/-- Away from the wait, an id means that the controller is in Direct. -/
theorem Ledger.open_of_syntheticId (fits : m.PlaceholdersFit)
    (settled : ¬ m.KeepsPlaceholder key) (there : m.controllers.lookup key = some c) {id : Int}
    (syn : c.syntheticId = some id) : id ∈ m.openClaims := by
  have held : c.syntheticId.isSome := by simp [syn]
  rcases fits key c there held with direct | waiting
  · refine (books.open_iff id).mpr (.inr ⟨key, c, there, ?_⟩)
    rw [streamId_of_direct direct, syn]
  · exact absurd ⟨c, there, waiting, held⟩ settled

/-- An open claim is the one its model's controller streams through. -/
theorem Ledger.direct_of_claimedFor {id : Int} (isOpen : id ∈ m.openClaims)
    (model : m.claimedFor id = some key) :
    ∃ c, m.controllers.lookup key = some c ∧ c.phase = .direct ∧ c.syntheticId = some id := by
  rcases (books.open_iff id).mp isOpen with pending | ⟨other, c, there, streams⟩
  · cases pending
  · have syn := syntheticId_of_streamId streams
    obtain rfl : key = other := Option.some.inj (model.symm.trans (books.model there syn))
    refine ⟨c, there, ?_, syn⟩
    by_contra idle
    rw [streamId_of_not_direct idle] at streams
    cases streams

end

theorem isDirectClaimed_iff {vendorId productId : Int} :
    m.isDirectClaimed vendorId productId = true ↔ ∃ c id,
      m.controllers.lookup (vpKey vendorId productId) = some c ∧ c.syntheticId = some id := by
  simp only [isDirectClaimed, directTarget, Option.isSome_bind, Option.any_eq_true,
    Option.isSome_map, Option.isSome_iff_exists]
  exact ⟨fun ⟨c, there, id, syn⟩ => ⟨c, id, there, syn⟩,
    fun ⟨c, id, there, syn⟩ => ⟨c, there, id, syn⟩⟩

end UsbManager

open UsbManager

end Dish
