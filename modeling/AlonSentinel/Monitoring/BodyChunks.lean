import AlonSentinel.Monitoring.HttpChecker

/-! The chunks of a body. However it is split, the check reads its bytes up to the limit, and no
chunk behind the one that reaches it.
-/

namespace AlonSentinel.Monitoring

/-- A turn of the loop that reads a body: the buffer before it, its chunk, and the end of the slice
that it takes.
-/
structure ChunkRead where
  buf : List UInt8
  chunk : List UInt8
  sliceEnd : Nat
  deriving DecidableEq

/-- The loop with the turns it makes. -/
def readChunksLogged (limit : Nat) (readError : Option RequestError)
    : List UInt8 → List (List UInt8) → List ChunkRead × Except RequestError (List UInt8)
  | buf, [] =>
      match readError with
      | some error => ([], .error error)
      | none => ([], .ok buf)
  | buf, chunk :: rest =>
      let remaining := limit - buf.length
      let turn : ChunkRead := ⟨buf, chunk, min chunk.length remaining⟩
      let extended := buf ++ chunk.take turn.sliceEnd
      if limit ≤ extended.length then ([turn], .ok extended)
      else
        let later := readChunksLogged limit readError extended rest
        (turn :: later.1, later.2)

/-- The turns that read a body. -/
def HttpResponse.bodyTurns (response : HttpResponse) (maxResponseBodyBytes : UInt64)
    : List ChunkRead :=
  (readChunksLogged maxResponseBodyBytes.toNat response.readError [] response.chunks).1

/-- How the bytes of a body are read up to a limit. -/
structure ReadsWithin (response : HttpResponse) (bytes : List UInt8) (limit : UInt64)
    : Prop where
  /-- The loop of the check is the one whose turns are logged. -/
  isLogged
    : response.readBody limit
      = (readChunksLogged limit.toNat response.readError [] response.chunks).2
  body : response.readBody limit = .ok (bytes.take (min bytes.length limit.toNat))
  judged
    : ∀ libraries assertions expectedStatusCode elapsed,
        judgeResponse libraries assertions limit expectedStatusCode elapsed response
        = let verdict := judgeHead libraries assertions expectedStatusCode elapsed response
          if verdict.isSuccess && assertions.onBody then
            judgeBody libraries assertions verdict
              (Utf8Lossy.decode (bytes.take (min bytes.length limit.toNat)))
          else verdict
  inBounds : ∀ turn ∈ response.bodyTurns limit, turn.sliceEnd ≤ turn.chunk.length
  inOrder : (response.bodyTurns limit).map ChunkRead.chunk <+: response.chunks
  stops : ∀ turn ∈ response.bodyTurns limit, turn.buf.length < limit.toNat

variable {limit : Nat} {readError : Option RequestError} {buf bytes : List UInt8}
  {chunks : List (List UInt8)}

/-- Logging the turns changes nothing, by induction over the chunks. -/
theorem readChunksLogged_snd
    : (readChunksLogged limit readError buf chunks).2 = readChunks limit readError buf chunks := by
  induction chunks generalizing buf with
  | nil => cases readError <;> rfl
  | cons chunk rest ih =>
      rw [readChunksLogged, readChunks]
      simp only
      split
      · rfl
      · exact ih

/-- What holds of every turn on a buffer with room holds of all turns of the loop, by induction over
the chunks.
-/
theorem forall_turns {property : ChunkRead → Prop}
    (holds
      : ∀ (buf chunk : List UInt8),
          buf.length < limit
          → property ⟨buf, chunk, min chunk.length (limit - buf.length)⟩)
    (below : buf.length < limit)
    : ∀ turn ∈ (readChunksLogged limit readError buf chunks).1, property turn := by
  induction chunks generalizing buf with
  | nil => cases readError <;> exact List.forall_mem_nil _
  | cons chunk rest ih =>
      have first := holds buf chunk below
      rw [readChunksLogged]
      simp only
      split
      · exact List.forall_mem_singleton.mpr first
      · rename_i short
        exact List.forall_mem_cons.mpr ⟨first, ih (Nat.lt_of_not_le short)⟩

/-- The turns take the chunks in order, by induction over them. -/
theorem map_chunk_prefix
    : (readChunksLogged limit readError buf chunks).1.map ChunkRead.chunk <+: chunks := by
  induction chunks generalizing buf with
  | nil => cases readError <;> exact List.nil_prefix
  | cons chunk rest ih =>
      rw [readChunksLogged]
      simp only
      split
      · exact ⟨rest, rfl⟩
      · rw [List.map_cons, List.cons_prefix_cons]
        exact ⟨rfl, ih⟩

/-- Where the bytes reach the limit, an error behind them is not met, by induction over the chunks.
-/
theorem readChunks_of_reaches (below : buf.length < limit)
    (reaches : limit ≤ (buf ++ chunks.flatten).length)
    : readChunks limit readError buf chunks = readChunks limit none buf chunks := by
  induction chunks generalizing buf with
  | nil =>
      rw [List.flatten_nil, List.append_nil] at reaches
      omega
  | cons chunk rest ih =>
      rw [readChunks, readChunks]
      split
      · rfl
      · rename_i short
        apply ih (Nat.lt_of_not_le short)
        simp only [List.flatten_cons, List.length_append, List.length_take] at reaches short ⊢
        omega

/-- However a body is split into chunks, its bytes up to the limit are read and judged, each slice
lies within its chunk, and no chunk is read once the limit is reached. It is enough that the bytes
arrive that far.
-/
theorem body_readsWithin {response : HttpResponse} {maxResponseBodyBytes : UInt64}
    (split : response.chunks.flatten = bytes) (positive : 1 ≤ maxResponseBodyBytes.toNat)
    (arrives : response.readError = none ∨ maxResponseBodyBytes.toNat ≤ bytes.length)
    : ReadsWithin response bytes maxResponseBodyBytes := by
  have read
      : response.readBody maxResponseBodyBytes
        = .ok (bytes.take (min bytes.length maxResponseBodyBytes.toNat)) := by
    have withoutError
        : response.readBody maxResponseBodyBytes
          = readChunks maxResponseBodyBytes.toNat none [] response.chunks := by
      rcases arrives with arrived | reaches
      · rw [HttpResponse.readBody, arrived]
      · exact readChunks_of_reaches positive (by rwa [List.nil_append, split])
    rw [withoutError, readChunks_eq (Nat.zero_le _), List.nil_append, split, Nat.min_comm,
      ← List.take_take, List.take_length]
  refine ⟨readChunksLogged_snd.symm, read, ?_, ?_, map_chunk_prefix, ?_⟩
  · intro libraries assertions expectedStatusCode elapsed
    rw [judgeResponse, read]
  · exact forall_turns (fun buf chunk _ => Nat.min_le_left _ _) positive
  · exact forall_turns (fun buf chunk below => below) positive

/-- A body of five bytes in four chunks, of which the first is empty and the last is not read. -/
theorem body_readsWithin_fiveBytes
    : ReadsWithin ⟨200, [], [[], [1, 2], [3, 4], [5]], none⟩ [1, 2, 3, 4, 5] 3 :=
  body_readsWithin rfl (by decide) (.inl rfl)

end AlonSentinel.Monitoring
