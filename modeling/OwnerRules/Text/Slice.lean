namespace OwnerRules.Text

def byteSize : List Char → Nat
  | [] => 0
  | c :: cs => c.utf8Size + byteSize cs

def dropBytes? (n : Nat) : List Char → Option (List Char)
  | [] => if n = 0 then some [] else none
  | c :: cs => if n = 0 then some (c :: cs) else if n < c.utf8Size then none
    else dropBytes? (n - c.utf8Size) cs

def takeBytes? (n : Nat) : List Char → Option (List Char)
  | [] => if n = 0 then some [] else none
  | c :: cs => if n = 0 then some [] else if n < c.utf8Size then none
    else (takeBytes? (n - c.utf8Size) cs).map (c :: ·)

def slice? (start size : Nat) (s : List Char) : Option (List Char) :=
  (dropBytes? start s).bind (takeBytes? size)

end OwnerRules.Text
