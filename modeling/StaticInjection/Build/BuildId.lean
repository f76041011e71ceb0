import StaticInjection.Text.Digits

namespace StaticInjection

/-! Builds are told apart by numbers of 128 bits. -/

structure BuildId where
  value : BitVec 128
deriving DecidableEq, Repr, Inhabited

namespace BuildId

/-- All bits are free but six, which say that the number is random. -/
def ofRandom (bits : BitVec 128) : BuildId :=
  let versioned := (bits &&& ~~~ (0xf#128 <<< 76)) ||| (0x4#128 <<< 76)
  ⟨(versioned &&& ~~~ (0x3#128 <<< 62)) ||| (0x2#128 <<< 62)⟩

/-- Groups of 8, 4, 4, 4 and 12 hexadecimal digits. -/
def text (id : BuildId) : String :=
  let digits := Text.padDigits 16 32 id.value.toNat
  let group (start count : Nat) := String.ofList ((digits.drop start).take count)
  "-".intercalate [group 0 8, group 8 4, group 12 4, group 16 4, group 20 12]

example : (ofRandom 0).text = "00000000-0000-4000-8000-000000000000" := by decide +kernel

end BuildId

end StaticInjection
