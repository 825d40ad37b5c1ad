import Sortie.Spacecraft.Basic

namespace Sortie

/-- A pilot that is not human. One pilot flies all spacecraft that nobody else flies, and may
remember what it likes from one question to the next. -/
class Pilot (π : Type) where
  /-- What the spacecraft with index `self` of the arena does in the next `dt` milliseconds, and the
  pilot after the question. -/
  control : (pilot : π) → (self : Nat) → (crafts : Array Spacecraft) → (dt : Scalar) → Intent × π

end Sortie
