import TopicBridge.Number.LittleEndian

/-!
# Putting payloads together

A message is written as parts which are put behind one another, and the parts
of a nested message become parts of the message around it.  A builder records
how the parts are put together, and copies their bytes only once, when the
whole is finished.  What it stands for is its `toBytes`.
-/

namespace TopicBridge.Wire

/-- A chunk of bytes, or two builders one behind the other. -/
inductive Builder where
  | chunk (bytes : Bytes)
  | append (first second : Builder)

namespace Builder

/-- Put the bytes of a builder in front of others. -/
def onto : Builder → Bytes → Bytes
  | .chunk bytes, rest => bytes ++ rest
  | .append first second, rest => first.onto (second.onto rest)

/-- The bytes of a builder. -/
def toBytes (builder : Builder) : Bytes :=
  builder.onto []

/-- The builder of no bytes. -/
def empty : Builder :=
  .chunk []

/-- Builders one behind the other. -/
def concat (parts : List Builder) : Builder :=
  parts.foldl .append empty

theorem onto_eq (builder : Builder) (rest : Bytes) :
    builder.onto rest = builder.toBytes ++ rest := by
  unfold toBytes
  induction builder generalizing rest with
  | chunk bytes => simp [onto]
  | append first second firstEq secondEq =>
      rw [onto, onto, firstEq, firstEq (second.onto []), secondEq, List.append_assoc]

@[simp]
theorem toBytes_chunk (bytes : Bytes) : (Builder.chunk bytes).toBytes = bytes := by
  simp [toBytes, onto]

@[simp]
theorem toBytes_append (first second : Builder) :
    (first.append second).toBytes = first.toBytes ++ second.toBytes := by
  rw [toBytes, onto, onto_eq first, ← toBytes]

@[simp]
theorem toBytes_empty : empty.toBytes = [] :=
  toBytes_chunk []

theorem toBytes_foldl_append (parts : List Builder) (first : Builder) :
    (parts.foldl .append first).toBytes = first.toBytes ++ (parts.map toBytes).flatten := by
  induction parts generalizing first with
  | nil => simp
  | cons part later ih => simp [ih]

@[simp]
theorem toBytes_concat (parts : List Builder) :
    (concat parts).toBytes = (parts.map toBytes).flatten := by
  simp [concat, toBytes_foldl_append]

end Builder

end TopicBridge.Wire
