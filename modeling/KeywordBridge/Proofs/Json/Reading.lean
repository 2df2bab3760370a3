import KeywordBridge.Json.Encoding

/-!
# What a reader of JSON uses up

A reader leaves an ending of its input. It takes two steps at most for every code point
that it uses up, so that the bound on its steps is never reached. It gives up where arrays
and objects are nested more deeply than its limit, and every level of nesting takes a
bracket that opens in the document, so a reader whose limit is not below the number of
these brackets never gives up for that reason. Each document has such limits.
-/

namespace KeywordBridge

namespace Json

/-! ## Readers that stay within their input -/

/-- Does an array or an object open here? -/
def opens (point : CodePoint) : Bool :=
  point = .char '[' ∨ point = .char '\x7b'

/-- What a reader leaves of its input is an ending of it, and where no more brackets open
than it may go down, it does not give up for the depth. -/
inductive StaysWithin {α : Type} (depth : Nat) (points : List CodePoint) :
    Except ReadError (α × List CodePoint) → Prop
  | ok {value : α} {rest : List CodePoint} (left : rest <:+ points) :
      StaysWithin depth points (.ok (value, rest))
  | error {cause : ReadError} (shallow : points.countP opens ≤ depth → cause ≠ .tooDeep) :
      StaysWithin depth points (.error cause)

namespace StaysWithin

variable {α β : Type} {depth : Nat} {points rest : List CodePoint}
  {read : Except ReadError (α × List CodePoint)}

theorem malformed : StaysWithin (α := α) depth points (.error .malformed) :=
  .error fun _ => nofun

/-- A reader that starts later has fewer brackets in front of it. -/
theorem mono (within : StaysWithin depth rest read) (left : rest <:+ points) :
    StaysWithin depth points read := by
  cases within with
  | ok further => exact .ok (further.trans left)
  | error shallow =>
      exact .error fun few => shallow (Nat.le_trans left.sublist.countP_le few)

/-- Behind a bracket that opens there is one level less to go down, and one bracket less. -/
theorem deeper (within : StaysWithin depth rest read) {point : CodePoint}
    (opening : opens point = true) : StaysWithin (depth + 1) (point :: rest) read := by
  cases within with
  | ok left => exact .ok (left.trans (List.suffix_cons _ _))
  | error shallow =>
      refine .error fun few => shallow ?_
      rw [List.countP_cons_of_pos opening] at few
      exact Nat.le_of_succ_le_succ few

theorem tooDeep {point : CodePoint} (opening : opens point = true) :
    StaysWithin (α := α) 0 (point :: rest) (.error .tooDeep) := by
  refine .error fun few => ?_
  rw [List.countP_cons_of_pos opening] at few
  exact absurd few (Nat.not_succ_le_zero _)

theorem bind {next : α × List CodePoint → Except ReadError (β × List CodePoint)}
    (first : StaysWithin depth points read)
    (further : ∀ value rest, StaysWithin depth rest (next (value, rest))) :
    StaysWithin depth points (read >>= next) := by
  cases first with
  | ok left => exact (further _ _).mono left
  | error shallow => exact .error shallow

end StaysWithin

section

variable {depth : Nat} {points rest : List CodePoint}

theorem suffix_of_skipSpace (behind : skipSpace points = rest) : rest <:+ points :=
  behind ▸ List.dropWhile_suffix _

theorem suffix_of_skipSpace_cons {point : CodePoint}
    (behind : skipSpace points = point :: rest) : rest <:+ points :=
  (List.suffix_cons _ _).trans (suffix_of_skipSpace behind)

theorem length_lt_of_skipSpace {point : CodePoint}
    (behind : skipSpace points = point :: rest) : rest.length < points.length :=
  (suffix_of_skipSpace behind).length_le

theorem suffix_of_readStringFrom {waiting : Option CodePoint} {value : List CodePoint}
    (read : readStringFrom waiting points = some (value, rest)) : rest <:+ points := by
  fun_induction readStringFrom waiting points generalizing value with
  | case1 waiting a b c d more ih waitingIh =>
      have behind : more <:+ .char '\\' :: .char 'u' :: .char a :: .char b :: .char c ::
          .char d :: more := List.suffix_append [_, _, _, _, _, _] more
      refine List.IsSuffix.trans ?_ behind
      obtain ⟨_, -, read⟩ := Option.bind_eq_some_iff.1 read
      obtain ⟨unit, -, read⟩ := Option.bind_eq_some_iff.1 read
      split at read
      · obtain ⟨_, found, ⟨⟩⟩ := Option.bind_eq_some_iff.1 read
        exact ih found
      · split at read
        · obtain ⟨_, found, ⟨⟩⟩ := Option.bind_eq_some_iff.1 read
          exact waitingIh unit found
        · obtain ⟨_, found, ⟨⟩⟩ := Option.bind_eq_some_iff.1 read
          exact ih found
  | case2 waiting c more _ ih =>
      obtain ⟨_, -, read⟩ := Option.bind_eq_some_iff.1 read
      obtain ⟨_, found, ⟨⟩⟩ := Option.bind_eq_some_iff.1 read
      exact (ih found).trans (List.suffix_append [_, _] more)
  | case3 =>
      cases read
      exact List.suffix_cons _ _
  | case4 => cases read
  | case5 _ _ _ _ _ _ _ ih =>
      obtain ⟨_, found, ⟨⟩⟩ := Option.bind_eq_some_iff.1 read
      exact (ih found).trans (List.suffix_cons _ _)
  | case6 => cases read

theorem readString_staysWithin : StaysWithin depth points (readString points) := by
  rw [readString]
  cases read : readStringFrom none points with
  | none => exact .malformed
  | some found => exact .ok (suffix_of_readStringFrom read)

theorem readScalar_staysWithin : StaysWithin depth points (readScalar points) := by
  rw [readScalar]
  cases readWord (Text.ofPoints (points.takeWhile isWordPart)) with
  | none => exact .malformed
  | some found => exact .ok (List.drop_suffix _ _)

end

/-! ## What is left

Each of the three readers calls the others with a smaller bound. -/

section

variable {bound : Nat}
  (values : ∀ depth points, StaysWithin depth points (readValue bound depth points))
  (elements : ∀ depth points, StaysWithin depth points (readElements bound depth points))
  (members : ∀ depth known points,
    StaysWithin depth points (readMembers bound depth known points))

include elements members in
theorem readValue_succ_staysWithin (depth : Nat) (points : List CodePoint) :
    StaysWithin depth points (readValue (bound + 1) depth points) := by
  unfold readValue
  split
  · rename_i behind
    refine StaysWithin.mono ?_ (suffix_of_skipSpace_cons behind)
    exact readString_staysWithin.bind fun _ _ => .ok List.suffix_rfl
  · rename_i behind
    exact (StaysWithin.tooDeep rfl).mono (suffix_of_skipSpace behind)
  · rename_i rest depth behind
    refine StaysWithin.mono ?_ (suffix_of_skipSpace behind)
    refine StaysWithin.deeper ?_ rfl
    split
    · rename_i closed
      exact .ok (suffix_of_skipSpace_cons closed)
    · refine StaysWithin.mono ?_ (suffix_of_skipSpace rfl)
      exact (elements depth _).bind fun _ _ => .ok List.suffix_rfl
  · rename_i behind
    exact (StaysWithin.tooDeep rfl).mono (suffix_of_skipSpace behind)
  · rename_i rest depth behind
    refine StaysWithin.mono ?_ (suffix_of_skipSpace behind)
    refine StaysWithin.deeper ?_ rfl
    split
    · rename_i closed
      exact .ok (suffix_of_skipSpace_cons closed)
    · refine StaysWithin.mono ?_ (suffix_of_skipSpace rfl)
      exact (members depth [] _).bind fun _ _ => .ok List.suffix_rfl
  · exact readScalar_staysWithin.mono (suffix_of_skipSpace rfl)

include values elements in
theorem readElements_succ_staysWithin (depth : Nat) (points : List CodePoint) :
    StaysWithin depth points (readElements (bound + 1) depth points) := by
  rw [readElements]
  refine (values depth points).bind fun element rest => ?_
  dsimp only
  split
  · rename_i others more
    refine StaysWithin.mono ?_ (suffix_of_skipSpace_cons more)
    exact (elements depth others).bind fun _ _ => .ok List.suffix_rfl
  · rename_i closed
    exact .ok (suffix_of_skipSpace_cons closed)
  · exact .malformed

include values members in
theorem readMembers_succ_staysWithin (depth : Nat) (known : List (List CodePoint × Json))
    (points : List CodePoint) :
    StaysWithin depth points (readMembers (bound + 1) depth known points) := by
  unfold readMembers
  split
  · rename_i behind
    refine StaysWithin.mono ?_ (suffix_of_skipSpace_cons behind)
    refine readString_staysWithin.bind fun name rest => ?_
    dsimp only
    split
    · rename_i rest behind
      refine StaysWithin.mono ?_ (suffix_of_skipSpace_cons behind)
      refine (values depth rest).bind fun value rest => ?_
      dsimp only
      split
      · rename_i rest more
        exact (members depth _ rest).mono (suffix_of_skipSpace_cons more)
      · rename_i closed
        exact .ok (suffix_of_skipSpace_cons closed)
      · exact .malformed
    · exact .malformed
  · exact .malformed

end

theorem readers_stayWithin (bound : Nat) :
    (∀ depth points, StaysWithin depth points (readValue bound depth points)) ∧
      (∀ depth points, StaysWithin depth points (readElements bound depth points)) ∧
      ∀ depth known points, StaysWithin depth points (readMembers bound depth known points) := by
  induction bound with
  | zero => exact ⟨fun _ _ => .malformed, fun _ _ => .malformed, fun _ _ _ => .malformed⟩
  | succ bound ih =>
      obtain ⟨values, elements, members⟩ := ih
      exact ⟨readValue_succ_staysWithin elements members,
        readElements_succ_staysWithin values elements,
        readMembers_succ_staysWithin values members⟩

/-! ## The bound -/

/-- Two ways to go on that agree on what a reader leaves agree behind the reader. -/
theorem StaysWithin.bind_congr {α β : Type} {depth : Nat} {points : List CodePoint}
    {read : Except ReadError (α × List CodePoint)}
    {next other : α × List CodePoint → Except ReadError β}
    (within : StaysWithin depth points read)
    (same : ∀ value rest, rest <:+ points → next (value, rest) = other (value, rest)) :
    read >>= next = read >>= other := by
  cases within with
  | ok left => exact same _ _ left
  | error => rfl

section

variable {bound other : Nat}
  (values : ∀ depth points, 2 * points.length + 1 ≤ bound → 2 * points.length + 1 ≤ other →
    readValue bound depth points = readValue other depth points)
  (elements : ∀ depth points, 2 * points.length + 2 ≤ bound → 2 * points.length + 2 ≤ other →
    readElements bound depth points = readElements other depth points)
  (members : ∀ depth known points,
    2 * points.length + 1 ≤ bound → 2 * points.length + 1 ≤ other →
    readMembers bound depth known points = readMembers other depth known points)

include elements members in
theorem readValue_succ_congr (depth : Nat) (points : List CodePoint)
    (enough : 2 * points.length + 1 ≤ bound + 1)
    (enoughToo : 2 * points.length + 1 ≤ other + 1) :
    readValue (bound + 1) depth points = readValue (other + 1) depth points := by
  unfold readValue
  split
  · rfl
  · rfl
  · rename_i rest depth behind
    have shorter := length_lt_of_skipSpace behind
    have left : (skipSpace rest).length ≤ rest.length := (suffix_of_skipSpace rfl).length_le
    split
    · rfl
    · rw [elements depth _ (by omega) (by omega)]
  · rfl
  · rename_i rest depth behind
    have shorter := length_lt_of_skipSpace behind
    have left : (skipSpace rest).length ≤ rest.length := (suffix_of_skipSpace rfl).length_le
    split
    · rfl
    · rw [members depth [] _ (by omega) (by omega)]
  · rfl

include values elements in
theorem readElements_succ_congr (depth : Nat) (points : List CodePoint)
    (enough : 2 * points.length + 2 ≤ bound + 1)
    (enoughToo : 2 * points.length + 2 ≤ other + 1) :
    readElements (bound + 1) depth points = readElements (other + 1) depth points := by
  rw [readElements, readElements, values depth points (by omega) (by omega)]
  refine ((readers_stayWithin other).1 depth points).bind_congr fun element rest left => ?_
  have notLonger := left.length_le
  dsimp only
  split
  · rename_i others more
    have shorter := length_lt_of_skipSpace more
    rw [elements depth others (by omega) (by omega)]
  · rfl
  · rfl

include values members in
theorem readMembers_succ_congr (depth : Nat) (known : List (List CodePoint × Json))
    (points : List CodePoint) (enough : 2 * points.length + 1 ≤ bound + 1)
    (enoughToo : 2 * points.length + 1 ≤ other + 1) :
    readMembers (bound + 1) depth known points = readMembers (other + 1) depth known points := by
  unfold readMembers
  split
  · rename_i rest behind
    have shorter := length_lt_of_skipSpace behind
    have within : StaysWithin depth rest (readString rest) := readString_staysWithin
    refine within.bind_congr fun name rest left => ?_
    have notLonger := left.length_le
    dsimp only
    split
    · rename_i rest behind
      have shorterToo := length_lt_of_skipSpace behind
      rw [values depth rest (by omega) (by omega)]
      refine ((readers_stayWithin other).1 depth rest).bind_congr fun value rest left => ?_
      have notLongerToo := left.length_le
      dsimp only
      split
      · rename_i rest more
        have shorterStill := length_lt_of_skipSpace more
        rw [members depth _ rest (by omega) (by omega)]
      · rfl
      · rfl
    · rfl
  · rfl

end

/-- Bounds above twice the length of the input make no difference. -/
theorem readers_congr (bound other : Nat) :
    (∀ depth points, 2 * points.length + 1 ≤ bound → 2 * points.length + 1 ≤ other →
      readValue bound depth points = readValue other depth points) ∧
    (∀ depth points, 2 * points.length + 2 ≤ bound → 2 * points.length + 2 ≤ other →
      readElements bound depth points = readElements other depth points) ∧
    ∀ depth known points, 2 * points.length + 1 ≤ bound → 2 * points.length + 1 ≤ other →
      readMembers bound depth known points = readMembers other depth known points := by
  induction bound generalizing other with
  | zero =>
      refine ⟨?_, ?_, ?_⟩
      all_goals intros; omega
  | succ bound ih =>
      cases other with
      | zero =>
          refine ⟨?_, ?_, ?_⟩
          all_goals intros; omega
      | succ other =>
          obtain ⟨values, elements, members⟩ := ih other
          exact ⟨readValue_succ_congr elements members,
            readElements_succ_congr values elements,
            readMembers_succ_congr values members⟩

/-- A document is read to its end under every bound that is large enough. -/
theorem read_eq_of_le {bound limit : Nat} {points : List CodePoint}
    (enough : 2 * points.length + 1 ≤ bound) :
    read limit points = (do
      let (value, rest) ← readValue bound limit points
      if (skipSpace rest).isEmpty then return value else throw .malformed) := by
  rw [read, (readers_congr _ bound).1 limit points (Nat.le_refl _) enough]

/-! ## The limit -/

/-- A document in which no more brackets open than may be nested is never nested too
deeply. -/
theorem read_ne_tooDeep {limit : Nat} {points : List CodePoint}
    (few : points.countP opens ≤ limit) : read limit points ≠ .error .tooDeep := by
  have within := (readers_stayWithin (2 * points.length + 1)).1 limit points
  rw [read]
  cases attempt : readValue (2 * points.length + 1) limit points with
  | ok found =>
      show (if (skipSpace found.2).isEmpty then _ else _) ≠ _
      split <;> nofun
  | error cause =>
      rw [attempt] at within
      cases within with
      | error shallow => exact fun deep => shallow few (Except.error.inj deep)

/-- Every document has limits under which it is not nested too deeply. -/
theorem exists_ofOctets_ne_tooDeep (octets : List UInt8) :
    ∃ least, ∀ limit, least ≤ limit → ofOctets limit octets ≠ .error .tooDeep := by
  obtain ⟨encoding, behind⟩ : ∃ encoding, JsonEncoding.detect octets = encoding := ⟨_, rfl⟩
  cases decoded : encoding.1.points? encoding.2 with
  | none =>
      refine ⟨0, fun limit _ => ?_⟩
      rw [ofOctets, behind]
      simp [decoded, expected, bind, Except.bind]
  | some points =>
      refine ⟨points.countP opens, fun limit enough => ?_⟩
      rw [ofOctets, behind]
      simpa [decoded, expected, bind, Except.bind] using read_ne_tooDeep enough

end Json

end KeywordBridge
