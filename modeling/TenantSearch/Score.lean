/-! Scores are binary32 floating point numbers, rounded to nearest even at every step. This module
fixes their total order and their written form. -/
namespace TenantSearch

abbrev Score := Float32

namespace Score

/-- The 32 bits of a score. A score that is not a number comes only from arithmetic on infinite
ones and has the negative sign that such arithmetic gives. -/
def bits (score : Score) : Nat := if score.isNaN then 0xFFC00000 else score.toBits.toNat

/-- The place of a score in the total order of all bit patterns: negative patterns stand below
positive ones and ascend as their magnitude falls. -/
def place (score : Score) : Int :=
  if score.bits < 0x80000000 then score.bits else 0x7FFFFFFF - (score.bits : Int)

def sum (scores : List Score) : Score := scores.foldl (· + ·) 0

def maximum (scores : List Score) : Score :=
  scores.foldl (fun best score => if best < score then score else best) 0

def ofDouble (value : Float) : Score :=
  match value.toModel.unpack with
  | .finite sign mantissa exponent _ =>
    ⟨Float32.Model.pack (Float.Model.UnpackedFloat.round .binary32 sign mantissa exponent)⟩
  | special => ⟨Float32.Model.pack special⟩

end Score

end TenantSearch
