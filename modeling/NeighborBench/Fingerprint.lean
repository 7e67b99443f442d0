import NeighborBench.Json.Printer
import NeighborBench.Sha256

/-! # Fingerprints of configurations -/

namespace NeighborBench

/-- The digest of a value's canonical text. -/
def Json.fingerprint (value : Json) : String := Sha256.hex value.canonicalText.toUTF8.toList

end NeighborBench
