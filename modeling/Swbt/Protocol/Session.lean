import Swbt.Protocol.Report
/-!
# Protocol session state

What a connection has negotiated: report mode, player lights, IMU mode and
vibration, with the IMU encoder's state.
-/

set_option autoImplicit false

namespace Swbt

inductive ReportModeSelection
  | standardFull
  | unsupported (requested : UInt8)
deriving DecidableEq

def ReportModeSelection.fromRequested (requested : UInt8) : ReportModeSelection :=
  if requested = 0x30 then .standardFull else .unsupported requested

structure ProtocolSession where
  reportModeSelection : Option ReportModeSelection
  playerLights : Option UInt8
  imuMode : ImuMode
  imuEncodingState : ImuEncodingState
  vibrationEnabled : Bool

namespace ProtocolSession

def default : ProtocolSession := ⟨none, none, .disabled, .default, false⟩

def reportMode (s : ProtocolSession) : Option UInt8 :=
  match s.reportModeSelection with
  | some .standardFull => some 0x30
  | some (.unsupported requested) => some requested
  | none => none

def reportModeSupported (s : ProtocolSession) : Bool :=
  match s.reportModeSelection with
  | some .standardFull => true
  | _ => false

def protocolReady (s : ProtocolSession) : Bool :=
  s.reportModeSupported && match s.playerLights with
    | some lights => lights != 0
    | none => false

def withReportMode (s : ProtocolSession) (requested : UInt8) : ProtocolSession :=
  { s with reportModeSelection := some (.fromRequested requested) }

def withPlayerLights (s : ProtocolSession) (lights : UInt8) : ProtocolSession := { s with playerLights := some lights }

def withImuMode (s : ProtocolSession) (mode : ImuMode) : ProtocolSession :=
  { s with imuMode := mode, imuEncodingState := .default }

def withImuEncodingState (s : ProtocolSession) (state : ImuEncodingState) : ProtocolSession :=
  { s with imuEncodingState := state }

def withVibrationEnabled (s : ProtocolSession) (enabled : Bool) : ProtocolSession :=
  { s with vibrationEnabled := enabled }

/-- A supported selection is the mode 0x30: no request of another mode is
recorded as 0x30. -/
theorem fromRequested_supported (requested : UInt8) :
    ReportModeSelection.fromRequested requested = .standardFull ↔ requested = 0x30 := by
  unfold ReportModeSelection.fromRequested
  split <;> simp_all

theorem reportMode_of_protocolReady {s : ProtocolSession} (h : s.protocolReady = true) : s.reportMode = some 0x30 := by
  unfold protocolReady reportModeSupported at h
  unfold reportMode
  split at h <;> simp_all

end ProtocolSession

end Swbt
