set_option autoImplicit false

/-!
# White space

The characters with the Unicode property `White_Space`, and the removal of such characters from the
end of a text.
-/

namespace ClusterConfig.Text

/-- The code points that have the property `White_Space`, as inclusive ranges. -/
def whiteSpaceRanges : List (Nat × Nat) :=
  [(0x09, 0x0D), (0x20, 0x20), (0x85, 0x85), (0xA0, 0xA0), (0x1680, 0x1680), (0x2000, 0x200A),
    (0x2028, 0x2029), (0x202F, 0x202F), (0x205F, 0x205F), (0x3000, 0x3000)]

def isWhiteSpace (c : Char) : Bool :=
  whiteSpaceRanges.any fun (low, high) => decide (low ≤ c.toNat ∧ c.toNat ≤ high)

def trimEnd (text : String) : String :=
  String.ofList (text.toList.reverse.dropWhile isWhiteSpace).reverse

end ClusterConfig.Text
