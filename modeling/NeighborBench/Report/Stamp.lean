import NeighborBench.Text.Quoted

/-! # Times and ids of reports -/

namespace NeighborBench.Stamp

def padded (width n : Nat) : String :=
  let digits := Nat.repr n
  String.ofList (List.replicate (width - digits.length) '0') ++ digits

/-! ## Dates -/

structure Date where
  year : Nat
  month : Nat
  day : Nat
  deriving DecidableEq, Repr

/-- Days from the first of March of year zero to the first of January of 1970. -/
def daysToEpoch : Nat := 719468

/-- The date so many days after the first of January of 1970. Years are counted from March, so that
the leap day is a year's last. -/
def Date.ofDays (days : Nat) : Date :=
  let n := days + daysToEpoch
  let era := n / 146097
  let dayOfEra := n % 146097
  let yearOfEra := (dayOfEra - dayOfEra / 1460 + dayOfEra / 36524 - dayOfEra / 146096) / 365
  let dayOfYear := dayOfEra - (365 * yearOfEra + yearOfEra / 4 - yearOfEra / 100)
  let m := (5 * dayOfYear + 2) / 153
  let day := dayOfYear - (153 * m + 2) / 5 + 1
  let month := if m < 10 then m + 3 else m - 9
  let year := yearOfEra + era * 400
  ⟨if month ≤ 2 then year + 1 else year, month, day⟩

example : Date.ofDays 0 = ⟨1970, 1, 1⟩ ∧ Date.ofDays 11016 = ⟨2000, 2, 29⟩ ∧
    Date.ofDays 19723 = ⟨2024, 1, 1⟩ := by decide

/-! ## Times -/

/-- As many digits as tell the nanoseconds of a second: none, three, six or nine. -/
def fraction (nanos : Nat) : String :=
  if nanos = 0 then ""
  else if nanos % 1000000 = 0 then "." ++ padded 3 (nanos / 1000000)
  else if nanos % 1000 = 0 then "." ++ padded 6 (nanos / 1000)
  else "." ++ padded 9 nanos

/-- The time so many nanoseconds after the start of 1970. -/
def time (nanos : Nat) : String :=
  let seconds := nanos / 1000000000
  let date := Date.ofDays (seconds / 86400)
  let s := seconds % 86400
  s!"{padded 4 date.year}-{padded 2 date.month}-{padded 2 date.day}" ++
    s!"T{padded 2 (s / 3600)}:{padded 2 (s / 60 % 60)}:{padded 2 (s % 60)}" ++
    fraction (nanos % 1000000000) ++ "Z"

/-! ## Ids -/

def hexByte (n : Nat) : List Char := [Text.hexDigit (n / 16), Text.hexDigit (n % 16)]

/-- Sixteen random bytes as an id, with its version and variant in their places. -/
def id (bytes : List UInt8) : String :=
  let bytes := bytes.mapIdx fun i b =>
    if i = 6 then 0x40 + b.toNat % 0x10 else if i = 8 then 0x80 + b.toNat % 0x40 else b.toNat
  let group (start stop : Nat) : String :=
    String.ofList (((bytes.drop start).take (stop - start)).flatMap hexByte)
  "-".intercalate [group 0 4, group 4 6, group 6 8, group 8 10, group 10 16]

end NeighborBench.Stamp
