import ChainWatch.Http.Message

/-!
# Messages as bytes

A message is written as a head of lines, an empty line and a body. A connection delivers it in
pieces, so what has arrived may be a message, a part of one, or nothing that can become one
(`Progress`).

How far the body reaches is told by the head (`BodyExtent`): it has a length, it comes in chunks
each of which tells its own, or it goes on to the end of the connection. A response that is only
about the exchange itself, by its status, comes before the one that is waited for and is passed
over.

One connection carries one exchange: both sides say that they close it.
-/

namespace ChainWatch.Http

/-- How far something has arrived. -/
inductive Progress (α : Type) where
  /-- More is to come. -/
  | partway
  | whole (a : α)
  | malformed
deriving DecidableEq, Repr

namespace Progress

variable {α β : Type}

/-- Change what has arrived. -/
def map (f : α → β) : Progress α → Progress β
  | partway => partway
  | whole a => whole (f a)
  | malformed => malformed

/-- Nothing more comes: what is not whole by now never will be. -/
def cutOff : Progress α → Progress α
  | partway => malformed
  | p => p

end Progress

/-! ### Lines -/

/-- A text whose characters are bytes. -/
def charsOfBytes (bytes : List UInt8) : List Char :=
  bytes.map fun b => Char.ofNat b.toNat

/-- Cut bytes after the first line; the bytes that end the line belong to neither part. -/
def cutLine? : List UInt8 → Option (List UInt8 × List UInt8)
  | [] => none
  | 13 :: 10 :: rest => some ([], rest)
  | 10 :: rest => some ([], rest)
  | b :: rest => (cutLine? rest).map fun (line, rest) => (b :: line, rest)

/-- Cut bytes after the first line that is followed by an empty one. -/
def cutHead? : List UInt8 → Option (List UInt8 × List UInt8)
  | [] => none
  | 10 :: 13 :: 10 :: rest => some ([], rest)
  | 10 :: 10 :: rest => some ([], rest)
  | b :: rest => (cutHead? rest).map fun (head, rest) => (b :: head, rest)

/-- What follows a line is shorter than what it was cut from. -/
theorem length_lt_of_cutLine? {bytes line rest : List UInt8}
    (h : cutLine? bytes = some (line, rest)) : rest.length < bytes.length := by
  fun_induction cutLine? bytes generalizing line with
  | case1 => simp at h
  | case2 tail =>
    obtain ⟨-, rfl⟩ := Prod.mk.inj (Option.some.inj h)
    simp only [List.length_cons]; omega
  | case3 tail =>
    obtain ⟨-, rfl⟩ := Prod.mk.inj (Option.some.inj h)
    simp
  | case4 b tail _ _ ih =>
    obtain ⟨⟨line', rest'⟩, hcut, heq⟩ := Option.map_eq_some_iff.1 h
    obtain ⟨-, rfl⟩ := Prod.mk.inj heq
    have := ih hcut
    simp only [List.length_cons]; omega

/-- What follows a head is shorter than what it was cut from. -/
theorem length_lt_of_cutHead? {bytes head rest : List UInt8}
    (h : cutHead? bytes = some (head, rest)) : rest.length < bytes.length := by
  fun_induction cutHead? bytes generalizing head with
  | case1 => simp at h
  | case2 tail =>
    obtain ⟨-, rfl⟩ := Prod.mk.inj (Option.some.inj h)
    simp only [List.length_cons]; omega
  | case3 tail =>
    obtain ⟨-, rfl⟩ := Prod.mk.inj (Option.some.inj h)
    simp only [List.length_cons]; omega
  | case4 b tail _ _ ih =>
    obtain ⟨⟨head', rest'⟩, hcut, heq⟩ := Option.map_eq_some_iff.1 h
    obtain ⟨-, rfl⟩ := Prod.mk.inj heq
    have := ih hcut
    simp only [List.length_cons]; omega

/-! ### Heads -/

/-- The part of a message before its body. -/
structure Head where
  /-- The words of the first line. -/
  opening : List String
  /-- The other lines: names, in lower case, and values. -/
  fields : List (String × String)
deriving DecidableEq, Repr

namespace Head

/-- A line of a head as a name and a value. -/
def fieldOfLine (line : String) : String × String :=
  let cs := line.toList
  let name := (cs.takeWhile (· != ':')).map Char.toLower
  let value := (cs.dropWhile (· != ':')).drop 1
  (String.ofList name, trimBlank (String.ofList value))

/-- The head that bytes write. -/
def ofBytes (bytes : List UInt8) : Head :=
  match ((decodeUtf8Lossy bytes).splitOn "\n").map (trimEndChar '\r') with
  | [] => ⟨[], []⟩
  | first :: lines => ⟨first.splitOn " ", lines.map fieldOfLine⟩

/-- The value of a field. -/
def field? (h : Head) (name : String) : Option String := h.fields.lookup name

end Head

/-! ### Bodies -/

/-- How far a body reaches. -/
inductive BodyExtent where
  | length (n : Nat)
  | chunked
  | untilClose
deriving DecidableEq, Repr

/-- How far the body of a message with a head reaches, unless the head is wrong about it; a head
that says nothing leaves it open. -/
def Head.bodyExtent? (h : Head) (silent : BodyExtent) : Option BodyExtent :=
  match h.field? "transfer-encoding" with
  | some coding => if coding.toLower = "chunked" then some .chunked else none
  | none =>
    match h.field? "content-length" with
    | none => some silent
    | some digits =>
      if digits.isEmpty then none else (readDigits? 10 digits.toList).map .length

/-- The length of a chunk, by its first line. -/
def chunkLength? (line : List UInt8) : Option Nat :=
  match trimBlankChars ((charsOfBytes line).takeWhile (· != ';')) with
  | [] => none
  | digits => readDigits? 16 digits

/-- Put chunks together. An empty one is the last. -/
def joinChunks (bytes : List UInt8) : Progress (List UInt8) :=
  match _h : cutLine? bytes with
  | none => .partway
  | some (line, rest) =>
    match chunkLength? line with
    | none => .malformed
    | some 0 => .whole []
    | some n =>
      -- two bytes end the line of a chunk's data
      if rest.length < n + 2 then .partway
      else (joinChunks (rest.drop (n + 2))).map (rest.take n ++ ·)
termination_by bytes.length
decreasing_by
  have := length_lt_of_cutLine? ‹_›
  simp only [List.length_drop]
  omega

/-- The body among the bytes after a head. -/
def BodyExtent.body (extent : BodyExtent) (closed : Bool) (bytes : List UInt8) :
    Progress (List UInt8) :=
  match extent with
  | .length n => if n ≤ bytes.length then .whole (bytes.take n) else .partway
  | .chunked => joinChunks bytes
  | .untilClose => if closed then .whole bytes else .partway

/-! ### Reading -/

/-- The status that a response opens with. -/
def Head.status? (h : Head) : Option UInt16 := do
  let word ← h.opening[1]?
  let n ← readDigits? 10 word.toList
  if 100 ≤ n ∧ n < 1000 then some (UInt16.ofNat n) else none

/-- Does a response of this status have no body, whatever its head says? -/
def isBodiless (status : UInt16) : Bool := status = 204 || status = 304

/-- Read a response from what has arrived before the connection was closed or, if it is open, so
far. -/
def Response.read (closed : Bool) (bytes : List UInt8) : Progress Response :=
  let progress := match _h : cutHead? bytes with
    | none => .partway
    | some (headBytes, rest) =>
      let head := Head.ofBytes headBytes
      match head.status? with
      | none => .malformed
      | some status =>
        if status < 200 then Response.read closed rest
        else if isBodiless status then .whole (.empty status)
        else
          match head.bodyExtent? .untilClose with
          | none => .malformed
          | some extent => (extent.body closed rest).map fun body =>
            { status := status, mediaType := head.field? "content-type", body := body }
  if closed then progress.cutOff else progress
termination_by bytes.length
decreasing_by exact length_lt_of_cutHead? ‹_›

/-- Read a request from what has arrived so far. A body that is longer than a limit is cut off one
byte past it. -/
def Arrival.read (limit : Nat) (bytes : List UInt8) : Progress Arrival :=
  match cutHead? bytes with
  | none => .partway
  | some (headBytes, rest) =>
    let head := Head.ofBytes headBytes
    match head.opening, head.bodyExtent? (.length 0) with
    | [method, target, _], some extent =>
      -- what is past the limit is refused anyway, so it need not arrive
      let extent : BodyExtent := match extent with
        | .length n => .length (min n (limit + 1))
        | extent => extent
      (extent.body false rest).map fun body => { method := method, target := target, body := body }
    | _, _ => .malformed

/-! ### Writing -/

/-- Write lines and a body as a message. -/
def writeMessage (lines : List String) (body : List UInt8) : List UInt8 :=
  lines.flatMap (fun line => encodeUtf8 (line ++ "\r\n")) ++ 13 :: 10 :: body

/-- The lines that tell about a body. -/
def bodyLines (mediaType : Option String) (body : List UInt8) : List String :=
  mediaType.toList.map ("content-type: " ++ ·) ++ [s!"content-length: {body.length}"]

/-- Write a request to a target. -/
def Request.write (q : Request) (t : Target) : List UInt8 :=
  let opening := [s!"{q.method} {t.location} HTTP/1.1", "host: " ++ t.authority.place,
    "accept: */*", "connection: close"]
  match q.body with
  | none => writeMessage opening []
  | some text =>
    let body := encodeUtf8 text
    writeMessage (opening ++ bodyLines (some jsonMediaType) body) body

/-- The words for a status that a server answers with. -/
def reasonOf (status : UInt16) : String :=
  match status with
  | 200 => "OK"
  | 400 => "Bad Request"
  | 404 => "Not Found"
  | 405 => "Method Not Allowed"
  | 410 => "Gone"
  | 413 => "Payload Too Large"
  | _ => ""

/-- Write a response. -/
def Response.write (r : Response) : List UInt8 :=
  writeMessage
    ([s!"HTTP/1.1 {r.status} {reasonOf r.status}", "connection: close"]
      ++ bodyLines r.mediaType r.body)
    r.body

end ChainWatch.Http
