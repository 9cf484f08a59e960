namespace OwnerRules.Decimal

def isExponent : List Char → Bool
  | '+' :: ds => !ds.isEmpty && ds.all Char.isDigit
  | '-' :: ds => !ds.isEmpty && ds.all Char.isDigit
  | ds => !ds.isEmpty && ds.all Char.isDigit

def isUnsigned (cs : List Char) : Bool :=
  let whole := cs.takeWhile Char.isDigit
  let rest := cs.dropWhile Char.isDigit
  let (fraction, rest) :=
    match rest with
    | '.' :: ds => (ds.takeWhile Char.isDigit, ds.dropWhile Char.isDigit)
    | _ => ([], rest)
  if whole.isEmpty && fraction.isEmpty then
    ["inf", "infinity", "nan"].contains (String.ofList cs).toLower
  else
    match rest with
    | [] => true
    | c :: ds => (c = 'e' || c = 'E') && isExponent ds

end OwnerRules.Decimal
