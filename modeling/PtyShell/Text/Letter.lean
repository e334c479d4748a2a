namespace PtyShell.Text

def foldCase (c : Char) : Char :=
  if c.toNat = 0x017F then 's' else if c.toNat = 0x212A then 'k' else c.toLower

end PtyShell.Text
