import OwnerRules.Json.Error

namespace OwnerRules.Json

def readUnit : Reader Nat
  | a :: b :: c :: d :: rest =>
    match Text.ofHex? 0 [a, b, c, d] with
    | some n => .ok (n, rest)
    | none => .error .invalidEscape
  | cs => if 4 ≤ (String.ofList cs).utf8ByteSize then .error .invalidEscape else .error .endOfString

def isHighSurrogate (n : Nat) : Bool := 0xD800 ≤ n && n ≤ 0xDBFF

def isLowSurrogate (n : Nat) : Bool := 0xDC00 ≤ n && n ≤ 0xDFFF

def readLow (high : Nat) : Reader Char
  | '\\' :: 'u' :: cs => do
    let (low, rest) ← readUnit cs
    if isLowSurrogate low then
      .ok (Char.ofNat (0x10000 + (high - 0xD800) * 0x400 + (low - 0xDC00)), rest)
    else .error .loneSurrogate
  | [] => .error .endOfString
  | ['\\'] => .error .endOfString
  | _ => .error .unpairedSurrogate

def readEscape (strict : Bool) : Reader Char
  | [] => .error .endOfString
  | 'u' :: cs => do
    let (n, rest) ← readUnit cs
    if strict && isLowSurrogate n then .error .loneSurrogate
    else if strict && isHighSurrogate n then readLow n rest
    else .ok (Char.ofNat n, rest)
  | c :: rest =>
    match c with
    | '"' => .ok ('"', rest)
    | '\\' => .ok ('\\', rest)
    | '/' => .ok ('/', rest)
    | 'b' => .ok ('\x08', rest)
    | 'f' => .ok ('\x0c', rest)
    | 'n' => .ok ('\n', rest)
    | 'r' => .ok ('\r', rest)
    | 't' => .ok ('\t', rest)
    | _ => .error .invalidEscape

theorem length_readUnit {cs rest : List Char} {n : Nat} (h : readUnit cs = .ok (n, rest)) :
    rest.length ≤ cs.length := by
  unfold readUnit at h
  split at h
  · split at h
    · cases h
      simp only [List.length_cons]
      omega
    · cases h
  · split at h <;> cases h

theorem length_readLow {cs rest : List Char} {n : Nat} {c : Char}
    (h : readLow n cs = .ok (c, rest)) : rest.length ≤ cs.length := by
  unfold readLow at h
  split at h
  · obtain ⟨⟨low, rest'⟩, hu, h⟩ := bind_eq_ok.1 h
    have := length_readUnit hu
    dsimp only at h
    split at h
    · simp only [Except.ok.injEq, Prod.mk.injEq] at h
      simp only [← h.2, List.length_cons]
      omega
    · cases h
  all_goals cases h

theorem length_readEscape {strict : Bool} {cs rest : List Char} {c : Char}
    (h : readEscape strict cs = .ok (c, rest)) : rest.length ≤ cs.length := by
  unfold readEscape at h
  split at h
  · cases h
  · obtain ⟨⟨n, rest'⟩, hu, h⟩ := bind_eq_ok.1 h
    have hl := length_readUnit hu
    dsimp only at h
    split at h
    · cases h
    · split at h
      · have := length_readLow h
        simp only [List.length_cons]
        omega
      · cases h
        simp only [List.length_cons]
        omega
  · split at h <;> cases h <;> simp

def readBody (strict : Bool) (done cs : List Char) : Except Error (List Char × List Char) :=
  match cs with
  | [] => .error .endOfString
  | '"' :: rest => .ok (done.reverse, rest)
  | '\\' :: rest =>
    match h : readEscape strict rest with
    | .error e => .error e
    | .ok (c, rest') =>
      have := length_readEscape h
      readBody strict (c :: done) rest'
  | c :: rest =>
    if c < ' ' then .error .controlCharacter else readBody strict (c :: done) rest
termination_by cs.length
decreasing_by all_goals simp only [List.length_cons]; omega

def readText (cs : List Char) : Except Error (String × List Char) :=
  (readBody true [] cs).map fun p => (String.ofList p.1, p.2)

def skipText (cs : List Char) : Except Error (List Char) :=
  (readBody false [] cs).map (·.2)

theorem readBody_escape (strict : Bool) (done rest : List Char) :
    readBody strict done ('\\' :: rest) =
      (readEscape strict rest).bind fun p => readBody strict (p.1 :: done) p.2 := by
  rw [readBody]
  split <;> simp [*, Except.bind]

theorem length_readBody {strict : Bool} {done cs s rest : List Char}
    (h : readBody strict done cs = .ok (s, rest)) : rest.length < cs.length := by
  fun_induction readBody strict done cs with
  | case1 => cases h
  | case2 done rest' =>
    cases h
    simp
  | case3 done rest' e he => cases h
  | case4 done rest' c rest'' he hl ih =>
    have := ih h
    simp only [List.length_cons]
    omega
  | case5 => cases h
  | case6 done c rest' _ _ _ ih =>
    have := ih h
    simp only [List.length_cons]
    omega

theorem length_readText {cs rest : List Char} {s : String} (h : readText cs = .ok (s, rest)) :
    rest.length < cs.length := by
  unfold readText at h
  cases hb : readBody true [] cs with
  | error e => simp [hb, Except.map] at h
  | ok p =>
    simp only [hb, Except.map, Except.ok.injEq, Prod.mk.injEq] at h
    exact h.2 ▸ length_readBody hb

theorem length_skipText {cs rest : List Char} (h : skipText cs = .ok rest) :
    rest.length < cs.length := by
  unfold skipText at h
  cases hb : readBody false [] cs with
  | error e => simp [hb, Except.map] at h
  | ok p =>
    simp only [hb, Except.map, Except.ok.injEq] at h
    exact h ▸ length_readBody hb

def writeChar (c : Char) : List Char :=
  match c with
  | '"' => ['\\', '"']
  | '\\' => ['\\', '\\']
  | '\x08' => ['\\', 'b']
  | '\t' => ['\\', 't']
  | '\n' => ['\\', 'n']
  | '\x0c' => ['\\', 'f']
  | '\r' => ['\\', 'r']
  | c =>
    if c < ' ' then
      ['\\', 'u', '0', '0', (c.toNat / 16).digitChar, (c.toNat % 16).digitChar]
    else [c]

def writeText (s : String) : List Char := '"' :: s.toList.flatMap writeChar ++ ['"']

theorem readUnit_control {n : Nat} (h : n < 32) (rest : List Char) :
    readUnit ('0' :: '0' :: (n / 16).digitChar :: (n % 16).digitChar :: rest) = .ok (n, rest) := by
  have h0 : Text.hexValue? '0' = some 0 := by decide
  have hn : n / 16 * 16 + n % 16 = n := by omega
  simp [readUnit, Text.ofHex?, h0, Text.hexValue?_digitChar (show n / 16 < 16 by omega),
    Text.hexValue?_digitChar (show n % 16 < 16 by omega), hn]

theorem readBody_writeChar (c : Char) (done rest : List Char) :
    readBody true done (writeChar c ++ rest) = readBody true (c :: done) rest := by
  unfold writeChar
  split
  case h_8 h1 h2 _ _ _ _ _ =>
    split
    · next h =>
      have hc : c.toNat < 32 := h
      have hs : isLowSurrogate c.toNat = false ∧ isHighSurrogate c.toNat = false := by
        simp [isLowSurrogate, isHighSurrogate]
        omega
      simp [readBody_escape, readEscape, readUnit_control hc, hs, bind, Except.bind]
    · next h =>
      rw [List.cons_append, List.nil_append, readBody]
      · simp [h]
      · exact h1
      · exact h2
  all_goals simp [readBody_escape, readEscape, Except.bind]

theorem readBody_write (s done rest : List Char) :
    readBody true done (s.flatMap writeChar ++ '"' :: rest) = .ok (done.reverse ++ s, rest) := by
  induction s generalizing done with
  | nil => simp [readBody]
  | cons c s ih =>
    rw [List.flatMap_cons, List.append_assoc, readBody_writeChar, ih]
    simp

theorem readText_writeText (s : String) (rest : List Char) :
    readText (s.toList.flatMap writeChar ++ '"' :: rest) = .ok (s, rest) := by
  simp [readText, readBody_write, Except.map]

end OwnerRules.Json
