import Swbt.Runtime.Transport
/-!
# Connection sessions

Every connection has its own session id. A polled event is tagged with the
session current at that moment and dropped when another is current later.
-/

set_option autoImplicit false

namespace Swbt

/-- A `NonZeroU64`. -/
structure ConnectionSessionId where
  get : UInt64
  ne_zero : get ≠ 0
deriving DecidableEq

structure SessionEvent where
  sessionId : ConnectionSessionId
  event : TransportEvent
deriving DecidableEq

structure ConnectionSessions where
  lastIssued : UInt64
  current : Option ConnectionSessionId
deriving DecidableEq

namespace ConnectionSessions

def new : ConnectionSessions := ⟨0, none⟩

/-- The id after the last one issued, which wraps to 1. -/
def prepareNext (sessions : ConnectionSessions) : ConnectionSessionId :=
  if h : sessions.lastIssued + 1 ≠ 0 then ⟨sessions.lastIssued + 1, h⟩ else ⟨1, by decide⟩

/-- The last two lines of `commit`, whose other resets are the worker's. -/
def issue (next : ConnectionSessionId) : ConnectionSessions := ⟨next.get, some next⟩

/-- No caller reads the flag `end_current` returns. -/
def endCurrent (sessions : ConnectionSessions) (sessionId : ConnectionSessionId) : ConnectionSessions :=
  if sessions.current ≠ some sessionId then sessions else { sessions with current := none }

def tagCurrent (sessions : ConnectionSessions) (event : TransportEvent) : Option SessionEvent :=
  sessions.current.map fun sessionId => ⟨sessionId, event⟩

def takeCurrent (sessions : ConnectionSessions) (event : SessionEvent) : Option TransportEvent :=
  if some event.sessionId = sessions.current then some event.event else none

end ConnectionSessions

/-! ## Observed subcommands -/

/-- A set of subcommand ids, one bit each in four words. -/
structure ObservedSubcommands where
  words : List UInt64
  last : Option UInt8
  words_length : words.length = 4
deriving DecidableEq

namespace ObservedSubcommands

def default : ObservedSubcommands := ⟨[0, 0, 0, 0], none, rfl⟩

/-- The word and the mask of an id. -/
def bitSlot (id : UInt8) : Nat × UInt64 := (id.toNat / 64, 1 <<< UInt64.ofNat (id.toNat % 64))

/-- No caller reads the flag `observe` returns. -/
def observe (observed : ObservedSubcommands) (id : UInt8) : ObservedSubcommands where
  words := observed.words.modify (bitSlot id).1 (· ||| (bitSlot id).2)
  last := some id
  words_length := by simp [observed.words_length]

def isEmpty (observed : ObservedSubcommands) : Bool := observed.words.all (· == 0)

@[simp] theorem last_observe (observed : ObservedSubcommands) (id : UInt8) : (observed.observe id).last = some id := rfl

theorem mask_ne_zero : ∀ n : Nat, n < 64 → (1 : UInt64) <<< UInt64.ofNat n ≠ 0 := by decide

/-- Once an id is observed the set stays non-empty. -/
theorem isEmpty_observe (observed : ObservedSubcommands) (id : UInt8) : (observed.observe id).isEmpty = false := by
  have hlen := observed.words_length
  have hword : (bitSlot id).1 < observed.words.length := by
    have := id.toNat_lt
    simp only [bitSlot, hlen]
    omega
  have hmask : (bitSlot id).2 ≠ 0 := mask_ne_zero _ (Nat.mod_lt _ (by decide))
  unfold isEmpty
  rw [List.all_eq_false]
  refine ⟨_, List.mem_of_getElem? (i := (bitSlot id).1) (a := observed.words[(bitSlot id).1] ||| (bitSlot id).2) ?_, ?_⟩
  · simp [observe, hword]
  · rw [beq_iff_eq, UInt64.or_eq_zero_iff]
    exact fun h => hmask h.2

end ObservedSubcommands

end Swbt
