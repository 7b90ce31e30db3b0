/-! Powers of two and of ten. -/
namespace LineScript.Number

/-- Two to the power of `k`. -/
def twoTo (k : Nat) : Nat :=
  Nat.pow 2 k

/-- Ten to the power of `k`. -/
def tenTo (k : Nat) : Nat :=
  Nat.pow 10 k

end LineScript.Number
