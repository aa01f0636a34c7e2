import Cgroup.Config
import Cgroup.Proofs.Json.RoundTrip

/-!
# Configurations that are read back

A configuration is written as an object of strings and a number of 32 bits. JSON gives this object
back (`parse?_encode`), and the configuration is read from it (`ofValue?_toValue`). A configuration
may therefore be written down and read again anywhere on its way from a text to a strategy
(`round_trip`).
-/

namespace Cgroup.Config

open Json

/-- The object of a configuration is read back as JSON. -/
theorem fits_toValue (c : Config) : c.toValue.Fits State.depthLimit := by
  cases c with
  | fixed path => exact .object (by simp [Value.Fits.string])
  | root => exact .object (by simp [Value.Fits.string])
  | nested suffix => exact .object (by simp [Value.Fits.string])
  | process pid =>
    have hlower := Int32.le_toInt pid
    have hupper := Int32.toInt_lt pid
    have hpid : pid.toInt.natAbs < UInt64.size := by
      simp only [UInt64.size]
      omega
    have hnumber : Value.Fits 126 (.number (.ofInt pid.toInt)) :=
      .number (Decimal.isProper_ofInt _) (Decimal.isFinite_ofInt hpid)
    exact .object (by simp [Value.Fits.string, hnumber])

/-- The text of a configuration is JSON. -/
theorem parse?_encode (c : Config) : Value.parse? c.encode = some c.toValue :=
  c.fits_toValue.parse?_print

/-- A configuration is read from the object that stands for it. -/
theorem ofValue?_toValue (c : Config) : ofValue? c.toValue = some c := by
  cases c with
  | fixed path =>
    simp [toValue, ofValue?, Value.only?, Value.string?, ofFields?]
  | root => rfl
  | nested suffix =>
    simp [toValue, ofValue?, Value.only?, Value.string?, ofFields?]
  | process pid =>
    have hpid : (Value.number (.ofInt pid.toInt)).int32? = some pid := by
      rw [Value.int32?, Decimal.toInt?_ofInt, Option.bind_some, Numeral.toInt32?_toInt]
    simp [toValue, ofValue?, Value.only?, Value.string?, ofFields?, hpid]

theorem decode?_encode (c : Config) : decode? c.encode = some c := by
  rw [decode?, parse?_encode, Option.bind_some, ofValue?_toValue]

/-- The text of a configuration is JSON for its object and is read as this configuration, with every
character of its path. So if a text is read, written and read again, the result is what the first
reading gave, and the strategy that it chooses finds the same paths and errors on every host, with
every mount table. -/
theorem round_trip :
    (∀ c : Config, Value.parse? c.encode = some c.toValue ∧ decode? c.encode = some c) ∧
    ∀ text : String, let again := (decode? text).bind fun c => decode? c.encode
      again = decode? text ∧
      ∀ (h : Host) (t : Table) (subsystem : String),
        again.map (fun c => c.strategy.resolveIn h t subsystem) =
          (decode? text).map (fun c => c.strategy.resolveIn h t subsystem) := by
  refine ⟨fun c => ⟨parse?_encode c, decode?_encode c⟩, fun text => ?_⟩
  intro again
  have hagain : again = decode? text := by
    simp only [again, decode?_encode, Option.bind_fun_some]
  exact ⟨hagain, fun h t subsystem => by rw [hagain]⟩

example : (nested (.ofString "a/\"b\"\n\x01😀")).encode =
    "\x7b\"type\":\"nested\",\"suffix\":\"a/\\\"b\\\"\\n\\u0001😀\"\x7d" := by
  cbv

end Cgroup.Config
