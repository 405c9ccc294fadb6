/-!
White space as Unicode defines it, and trimming by it.
-/

namespace GatewayControl.Text

def isBlank (char : Char) : Bool :=
  let code := char.toNat
  (0x9 ≤ code && code ≤ 0xd) || code = 0x20 || code = 0x85 || code = 0xa0 || code = 0x1680 ||
    (0x2000 ≤ code && code ≤ 0x200a) || code = 0x2028 || code = 0x2029 || code = 0x202f ||
    code = 0x205f || code = 0x3000

def dropEndWhile (accepted : Char → Bool) (text : List Char) : List Char :=
  (text.reverse.dropWhile accepted).reverse

def trim (text : List Char) : List Char := dropEndWhile isBlank (text.dropWhile isBlank)

end GatewayControl.Text
