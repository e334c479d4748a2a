namespace PtyShell.Text

def isBlank (c : Char) : Bool :=
  let point := c.toNat
  (0x09 ≤ point && point ≤ 0x0D) || point == 0x20 || point == 0x85 || point == 0xA0 ||
    point == 0x1680 || (0x2000 ≤ point && point ≤ 0x200A) || point == 0x2028 ||
    point == 0x2029 || point == 0x202F || point == 0x205F || point == 0x3000

def isSpacing (c : Char) : Bool :=
  isBlank c || (0x1C ≤ c.toNat && c.toNat ≤ 0x1F)

def trimStart (space : Char → Bool) (text : List Char) : List Char :=
  text.dropWhile space

def trimEnd (space : Char → Bool) (text : List Char) : List Char :=
  (text.reverse.dropWhile space).reverse

def trim (space : Char → Bool) (text : List Char) : List Char :=
  trimEnd space (trimStart space text)

end PtyShell.Text
