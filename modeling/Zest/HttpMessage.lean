import Mathlib.Data.List.Basic

/-! # HTTP/1.1 messages

A strict reader of the requests on a connection, and what it reads back of
requests that are written out.  An octet is written as the character it stands
for in ASCII.

The reader takes a line to end with CRLF and to hold no other CR, LF or NUL, a
request target to be one run of visible characters, and a message with a
`Transfer-Encoding` to be framed by it and not by its `Content-Length`.
-/
namespace Http

abbrev Octets := List Char

def crlf : Octets := ['\r', '\n']

/-- The octets that no line may hold. -/
def isBreak (c : Char) : Bool := c == '\r' || c == '\n' || c == '\x00'

/-- A line that cannot be taken for several. -/
def clean (s : Octets) : Bool := s.all fun c => !isBreak c

/-- `VCHAR`. -/
def isVisible (c : Char) : Bool := 0x21 ≤ c.toNat && c.toNat ≤ 0x7e

/-- `tchar`. -/
def isTokenChar (c : Char) : Bool := c.isAlphanum || "!#$%&'*+-.^_`|~".toList.contains c

def isToken (s : Octets) : Bool := !s.isEmpty && s.all isTokenChar

def isTarget (s : Octets) : Bool := !s.isEmpty && s.all isVisible

/-- What is before and after the first `sep`. -/
def cut (sep : Char) : Octets → Option (Octets × Octets)
  | [] => none
  | c :: s => if c = sep then some ([], s) else (cut sep s).map fun found => (c :: found.1, found.2)

/-- A line, and what follows its CRLF. -/
def readLine : Octets → Option (Octets × Octets)
  | [] => none
  | c :: s =>
    if c = '\r' ∧ s.head? = some '\n' then some ([], s.tail)
    else (readLine s).map fun found => (c :: found.1, found.2)

/-- A request, with its field lines as they stand. -/
structure Request where
  method : Octets
  target : Octets
  fields : List Octets
  content : Octets
  deriving DecidableEq

/-! ## Reading -/

def version : Octets := "HTTP/1.1".toList

/-- The method and the target of a request line. -/
def readRequestLine (line : Octets) : Option (Octets × Octets) := do
  let (method, rest) ← cut ' ' line
  let (target, rest) ← cut ' ' rest
  if isToken method && isTarget target && rest == version then some (method, target) else none

/-- A field line has a name, and is one line. -/
def isFieldLine (line : Octets) : Bool :=
  clean line && (cut ':' line).any fun found => isToken found.1

/-- The field lines up to the empty line, and what follows it. -/
def readFields : Nat → Octets → Option (List Octets × Octets)
  | 0, _ => none
  | n + 1, octets => do
    let (line, rest) ← readLine octets
    if line.isEmpty then some ([], rest)
    else if isFieldLine line then (readFields n rest).map fun found => (line :: found.1, found.2)
    else none

def isBlank (c : Char) : Bool := c == ' ' || c == '\t'

def trim (s : Octets) : Octets := ((s.dropWhile isBlank).reverse.dropWhile isBlank).reverse

/-- The values of the fields of a name, which is in lower case. -/
def valuesOf (name : Octets) (fields : List Octets) : List Octets :=
  fields.filterMap fun line =>
    match cut ':' line with
    | none => none
    | some (found, value) => if found.map Char.toLower = name then some (trim value) else none

def digitsOf (base : Nat) (digit : Char → Option Nat) (s : Octets) : Option Nat :=
  if s.isEmpty then none
  else s.foldlM (fun n c => (digit c).map (n * base + ·)) 0

def decimalDigit (c : Char) : Option Nat := if c.isDigit then some (c.toNat - 48) else none

def hexDigit (c : Char) : Option Nat :=
  if c.isDigit then some (c.toNat - 48)
  else if 'a' ≤ c.toLower ∧ c.toLower ≤ 'f' then some (c.toLower.toNat - 87) else none

/-- The data of chunks, and what follows the last one and its trailers. -/
def readChunks : Nat → Octets → Option (Octets × Octets)
  | 0, _ => none
  | n + 1, octets => do
    let (line, rest) ← readLine octets
    let size ← digitsOf 16 hexDigit (line.takeWhile fun c => c != ';')
    if size = 0 then (readFields rest.length rest).map fun found => ([], found.2)
    else if size ≤ rest.length ∧ (rest.drop size).take 2 = crlf then
      (readChunks n (rest.drop (size + 2))).map fun found => (rest.take size ++ found.1, found.2)
    else none

/-- The content of a message with these fields. -/
def readContent (fields : List Octets) (octets : Octets) : Option (Octets × Octets) :=
  match (valuesOf "transfer-encoding".toList fields).getLast? with
  | some coding =>
    if coding.map Char.toLower = "chunked".toList then readChunks octets.length octets else none
  | none =>
    match valuesOf "content-length".toList fields with
    | [] => some ([], octets)
    | [value] => do
      let length ← digitsOf 10 decimalDigit value
      if length ≤ octets.length then some (octets.take length, octets.drop length) else none
    | _ => none

def readRequest (octets : Octets) : Option (Request × Octets) := do
  let (line, rest) ← readLine octets
  let (method, target) ← readRequestLine line
  let (fields, rest) ← readFields rest.length rest
  let (content, rest) ← readContent fields rest
  return (⟨method, target, fields, content⟩, rest)

/-- The requests of a connection, up to its end. -/
def readRequests : Nat → Octets → Option (List Request)
  | _, [] => some []
  | 0, _ :: _ => none
  | n + 1, c :: octets => do
    let (request, rest) ← readRequest (c :: octets)
    let requests ← readRequests n rest
    return request :: requests

/-- The requests that the octets begin with. -/
def leadingRequests : Nat → Octets → List Request
  | 0, _ => []
  | n + 1, octets =>
    match readRequest octets with
    | none => []
    | some (request, rest) => request :: leadingRequests n rest

/-- **What a connection says**: nothing where the octets are not a sequence of
requests. -/
def readConnection (octets : Octets) : Option (List Request) := readRequests octets.length octets

/-! ## Writing -/

/-- The lines of a message, each with its end. -/
def renderLines (lines : List Octets) : Octets := lines.flatMap fun line => line ++ crlf

/-- A request, with its content in the form that its fields announce. -/
def render (method target : Octets) (fields : List Octets) (encoded : Octets) : Octets :=
  method ++ ' ' :: (target ++ ' ' :: (version ++ crlf)) ++ (renderLines fields ++ crlf) ++ encoded

/-- A field line. -/
def field (name value : Octets) : Octets := name ++ ':' :: ' ' :: value

/-- A request that is written as it is meant. -/
structure WellFormed (request : Request) (encoded : Octets) : Prop where
  method : isToken request.method = true
  target : isTarget request.target = true
  fields : ∀ line ∈ request.fields, isFieldLine line = true
  content : ∀ rest, readContent request.fields (encoded ++ rest) = some (request.content, rest)

/-! ## What is read is well formed -/

theorem readRequestLine_eq_some {line method target : Octets}
    (h : readRequestLine line = some (method, target)) : isTarget target = true := by
  unfold readRequestLine at h
  obtain ⟨⟨m, rest⟩, -, h⟩ := Option.bind_eq_some_iff.mp h
  obtain ⟨⟨t, rest'⟩, -, h⟩ := Option.bind_eq_some_iff.mp h
  dsimp only at h
  split at h
  next hchecked =>
    cases h
    simp only [Bool.and_eq_true] at hchecked
    exact hchecked.1.2
  next => cases h

theorem readFields_eq_some {n : Nat} {octets rest : Octets} {fields : List Octets}
    (h : readFields n octets = some (fields, rest)) : ∀ line ∈ fields, clean line = true := by
  induction n generalizing octets fields rest with
  | zero => cases h
  | succ n ih =>
    unfold readFields at h
    obtain ⟨⟨line, after⟩, -, h⟩ := Option.bind_eq_some_iff.mp h
    dsimp only at h
    split at h
    · cases h
      simp
    · split at h
      next hfield =>
        obtain ⟨⟨others, after'⟩, hothers, hmade⟩ := Option.map_eq_some_iff.mp h
        cases hmade
        unfold isFieldLine at hfield
        rw [Bool.and_eq_true] at hfield
        exact List.forall_mem_cons.mpr ⟨hfield.1, ih hothers⟩
      next => cases h

/-- **Soundness of the reader**: every target is visible, and every field line is
one line. -/
theorem readRequests_eq_some {n : Nat} {octets : Octets} {requests : List Request}
    (h : readRequests n octets = some requests) :
    ∀ request ∈ requests, isTarget request.target = true ∧
      ∀ line ∈ request.fields, clean line = true := by
  induction n generalizing octets requests with
  | zero =>
    cases octets with
    | nil =>
      cases h
      simp
    | cons c s => cases h
  | succ n ih =>
    cases octets with
    | nil =>
      cases h
      simp
    | cons c s =>
      unfold readRequests at h
      obtain ⟨⟨request, rest⟩, hfirst, h⟩ := Option.bind_eq_some_iff.mp h
      obtain ⟨others, hothers, h⟩ := Option.bind_eq_some_iff.mp h
      cases h
      refine List.forall_mem_cons.mpr ⟨?_, ih hothers⟩
      unfold readRequest at hfirst
      obtain ⟨⟨line, afterLine⟩, -, hfirst⟩ := Option.bind_eq_some_iff.mp hfirst
      obtain ⟨⟨method, target⟩, hline, hfirst⟩ := Option.bind_eq_some_iff.mp hfirst
      obtain ⟨⟨fields, afterFields⟩, hfields, hfirst⟩ := Option.bind_eq_some_iff.mp hfirst
      obtain ⟨⟨content, afterContent⟩, -, hfirst⟩ := Option.bind_eq_some_iff.mp hfirst
      cases hfirst
      exact ⟨readRequestLine_eq_some hline, readFields_eq_some hfields⟩

/-- Where the octets are requests, they begin with all of them. -/
theorem leadingRequests_eq {n : Nat} {octets : Octets} {requests : List Request}
    (h : readRequests n octets = some requests) : leadingRequests n octets = requests := by
  induction n generalizing octets requests with
  | zero =>
    cases octets with
    | nil => exact Option.some.inj h
    | cons c s => cases h
  | succ n ih =>
    unfold leadingRequests
    cases octets with
    | nil => exact Option.some.inj h
    | cons c s =>
      unfold readRequests at h
      obtain ⟨⟨request, rest⟩, hfirst, h⟩ := Option.bind_eq_some_iff.mp h
      obtain ⟨others, hothers, h⟩ := Option.bind_eq_some_iff.mp h
      obtain rfl : request :: others = requests := Option.some.inj h
      rw [hfirst]
      exact congrArg _ (ih hothers)

/-! ## What is written is read back -/

theorem clean_append {s t : Octets} : clean (s ++ t) = (clean s && clean t) := List.all_append

theorem clean_cons {c : Char} {s : Octets} : clean (c :: s) = (!isBreak c && clean s) := rfl

theorem cut_append {sep : Char} {s : Octets} (h : sep ∉ s) (rest : Octets) :
    cut sep (s ++ sep :: rest) = some (s, rest) := by
  induction s with
  | nil => exact if_pos rfl
  | cons c s ih =>
    rw [List.mem_cons, not_or] at h
    rw [List.cons_append]
    unfold cut
    rw [if_neg (Ne.symm h.1), ih h.2]
    rfl

theorem readLine_append {line : Octets} (h : clean line = true) (rest : Octets) :
    readLine (line ++ crlf ++ rest) = some (line, rest) := by
  induction line with
  | nil => exact if_pos ⟨rfl, rfl⟩
  | cons c s ih =>
    unfold clean at h
    rw [List.all_cons, Bool.and_eq_true] at h
    have hc : c ≠ '\r' := by
      rintro rfl
      simp [isBreak] at h
    show (if c = '\r' ∧ _ then _ else _) = _
    rw [if_neg fun hcr => hc hcr.1]
    show (readLine (s ++ crlf ++ rest)).map _ = _
    rw [ih h.2]
    rfl

theorem readFields_append {n : Nat} {fields : List Octets} {rest : Octets}
    (hfields : ∀ line ∈ fields, isFieldLine line = true) (hn : fields.length < n) :
    readFields n (renderLines fields ++ crlf ++ rest) = some (fields, rest) := by
  induction fields generalizing n with
  | nil =>
    cases n with
    | zero => omega
    | succ n => rfl
  | cons line fields ih =>
    cases n with
    | zero => omega
    | succ n =>
      obtain ⟨hline, hothers⟩ := List.forall_mem_cons.mp hfields
      have hclean : clean line = true := (Bool.and_eq_true _ _ ▸ hline).1
      have hnonempty : line.isEmpty = false := by
        cases line with
        | nil => cases hline
        | cons => rfl
      have hlines : renderLines (line :: fields) ++ crlf ++ rest =
          line ++ crlf ++ (renderLines fields ++ crlf ++ rest) := by
        simp [renderLines]
      unfold readFields
      rw [hlines, readLine_append hclean]
      show (if line.isEmpty then _ else _) = _
      rw [if_neg (by simp [hnonempty]), if_pos hline,
        ih hothers (by simpa using hn)]
      rfl

theorem isTokenChar_ne {c : Char} (h : isTokenChar c = true) : c ≠ ' ' ∧ isBreak c = false := by
  unfold isTokenChar at h
  unfold isBreak
  refine ⟨?_, ?_⟩
  · rintro rfl
    exact absurd h (by decide)
  · rw [Bool.or_eq_false_iff, Bool.or_eq_false_iff]
    refine ⟨⟨?_, ?_⟩, ?_⟩ <;> refine beq_false_of_ne ?_ <;> rintro rfl <;> exact absurd h (by decide)

theorem isVisible_ne {c : Char} (h : isVisible c = true) : c ≠ ' ' ∧ isBreak c = false := by
  unfold isVisible at h
  unfold isBreak
  refine ⟨?_, ?_⟩
  · rintro rfl
    exact absurd h (by decide)
  · rw [Bool.or_eq_false_iff, Bool.or_eq_false_iff]
    refine ⟨⟨?_, ?_⟩, ?_⟩ <;> refine beq_false_of_ne ?_ <;> rintro rfl <;> exact absurd h (by decide)

theorem clean_of_isToken {s : Octets} (h : isToken s = true) : clean s = true ∧ ' ' ∉ s := by
  unfold isToken at h
  rw [Bool.and_eq_true] at h
  have hchars := List.all_eq_true.mp h.2
  refine ⟨List.all_eq_true.mpr fun c hc => ?_, fun hspace => (isTokenChar_ne (hchars _ hspace)).1 rfl⟩
  rw [(isTokenChar_ne (hchars c hc)).2]
  rfl

theorem clean_of_isTarget {s : Octets} (h : isTarget s = true) : clean s = true ∧ ' ' ∉ s := by
  unfold isTarget at h
  rw [Bool.and_eq_true] at h
  have hchars := List.all_eq_true.mp h.2
  refine ⟨List.all_eq_true.mpr fun c hc => ?_, fun hspace => (isVisible_ne (hchars _ hspace)).1 rfl⟩
  rw [(isVisible_ne (hchars c hc)).2]
  rfl

theorem readRequestLine_append {method target : Octets} (hmethod : isToken method = true)
    (htarget : isTarget target = true) :
    readRequestLine (method ++ ' ' :: (target ++ ' ' :: version)) = some (method, target) := by
  unfold readRequestLine
  rw [cut_append (clean_of_isToken hmethod).2]
  show (cut ' ' (target ++ ' ' :: version)).bind _ = _
  rw [cut_append (clean_of_isTarget htarget).2]
  show (if isToken method && isTarget target && version == version then _ else _) = _
  rw [hmethod, htarget]
  rfl

/-! ### Field lines -/

theorem colon_notMem {name : Octets} (h : isToken name = true) : ':' ∉ name := by
  intro hcolon
  unfold isToken at h
  rw [Bool.and_eq_true] at h
  exact absurd (List.all_eq_true.mp h.2 _ hcolon) (by decide)

theorem clean_field {name value : Octets} (h : clean (field name value) = true) :
    clean value = true := by
  unfold field at h
  rw [clean_append, clean_cons, clean_cons] at h
  simp only [Bool.and_eq_true] at h
  exact h.2.2.2

theorem isFieldLine_field {name value : Octets} (hname : isToken name = true)
    (hvalue : clean value = true) : isFieldLine (field name value) = true := by
  unfold isFieldLine field
  rw [cut_append (colon_notMem hname), clean_append, clean_cons, clean_cons,
    (clean_of_isToken hname).1, hvalue, Option.any_some, hname]
  decide

/-- One field line more. -/
theorem valuesOf_field {name found value : Octets} {fields : List Octets}
    (hfound : isToken found = true) :
    valuesOf name (field found value :: fields) =
      if found.map Char.toLower = name then trim (' ' :: value) :: valuesOf name fields
      else valuesOf name fields := by
  unfold valuesOf
  have hcut : cut ':' (field found value) = some (found, ' ' :: value) :=
    cut_append (colon_notMem hfound) _
  rw [List.filterMap_cons, hcut]
  by_cases hname : found.map Char.toLower = name
  · simp [hname]
  · simp [hname]

/-- A message with no framing field has no content. -/
theorem readContent_empty {fields : List Octets}
    (hcoding : valuesOf "transfer-encoding".toList fields = [])
    (hlength : valuesOf "content-length".toList fields = []) (rest : Octets) :
    readContent fields ([] ++ rest) = some ([], rest) := by
  unfold readContent
  rw [hcoding, hlength]
  rfl

/-- The last chunk, with no trailers. -/
def lastChunk : Octets := '0' :: crlf ++ crlf

/-- A chunked message ends with its last chunk, whatever its `Content-Length`. -/
theorem readContent_lastChunk {fields : List Octets}
    (hcoding : valuesOf "transfer-encoding".toList fields = ["chunked".toList]) (rest : Octets) :
    readContent fields (lastChunk ++ rest) = some ([], rest) := by
  unfold readContent
  rw [hcoding]
  rfl

theorem length_le_renderLines (lines : List Octets) :
    lines.length ≤ (renderLines lines).length := by
  induction lines with
  | nil => exact Nat.le_refl _
  | cons line lines ih =>
    have hcons : renderLines (line :: lines) = line ++ crlf ++ renderLines lines := rfl
    have hcrlf : crlf.length = 2 := rfl
    rw [hcons, List.length_append, List.length_append, List.length_cons]
    omega

section RoundTrip

variable {request : Request} {encoded : Octets}

/-- A request that is written out, as this module reads it. -/
def Request.rendered (request : Request) (encoded : Octets) : Octets :=
  render request.method request.target request.fields encoded

theorem readRequest_rendered (h : WellFormed request encoded) (rest : Octets) :
    readRequest (request.rendered encoded ++ rest) = some (request, rest) := by
  have hline : clean (request.method ++ ' ' :: (request.target ++ ' ' :: version)) = true := by
    rw [clean_append, clean_cons, clean_append, clean_cons, (clean_of_isToken h.method).1,
      (clean_of_isTarget h.target).1]
    decide
  have hlength : request.fields.length <
      (renderLines request.fields ++ crlf ++ (encoded ++ rest)).length := by
    have hlines := length_le_renderLines request.fields
    have hcrlf : crlf.length = 2 := rfl
    simp only [List.length_append]
    omega
  have hwritten : request.rendered encoded ++ rest =
      (request.method ++ ' ' :: (request.target ++ ' ' :: version)) ++ crlf ++
        (renderLines request.fields ++ crlf ++ (encoded ++ rest)) := by
    simp [Request.rendered, render]
  unfold readRequest
  rw [hwritten, readLine_append hline]
  show ((readRequestLine _).bind _) = _
  rw [readRequestLine_append h.method h.target]
  show ((readFields _ _).bind _) = _
  rw [readFields_append h.fields hlength]
  show ((readContent _ _).bind _) = _
  rw [h.content rest]
  rfl

theorem rendered_ne_nil (request : Request) (encoded : Octets) :
    request.rendered encoded ≠ [] := by
  unfold Request.rendered render
  simp

theorem readRequests_rendered {n : Nat} {written : List (Request × Octets)}
    (h : ∀ p ∈ written, WellFormed p.1 p.2) (hn : written.length ≤ n) :
    readRequests n (written.flatMap fun p => p.1.rendered p.2) = some (written.map Prod.fst) := by
  induction written generalizing n with
  | nil => cases n <;> rfl
  | cons p written ih =>
    obtain ⟨hp, hothers⟩ := List.forall_mem_cons.mp h
    have hread := readRequest_rendered hp (written.flatMap fun p => p.1.rendered p.2)
    cases n with
    | zero => cases hn
    | succ n =>
      rw [List.flatMap_cons]
      cases hoctets : p.1.rendered p.2 ++ written.flatMap fun p => p.1.rendered p.2 with
      | nil => exact absurd (List.append_eq_nil_iff.mp hoctets).1 (rendered_ne_nil p.1 p.2)
      | cons c octets =>
        rw [hoctets] at hread
        unfold readRequests
        rw [hread]
        show (readRequests n _).bind _ = _
        rw [ih hothers (Nat.le_of_succ_le_succ hn)]
        rfl

/-- **Requests that are written out one after the other are read back.** -/
theorem readConnection_rendered {written : List (Request × Octets)}
    (h : ∀ p ∈ written, WellFormed p.1 p.2) :
    readConnection (written.flatMap fun p => p.1.rendered p.2) = some (written.map Prod.fst) := by
  refine readRequests_rendered h ?_
  clear h
  induction written with
  | nil => exact Nat.le_refl _
  | cons p written ih =>
    have hpos := List.length_pos_iff.mpr (rendered_ne_nil p.1 p.2)
    rw [List.flatMap_cons, List.length_append, List.length_cons]
    omega

end RoundTrip

end Http
