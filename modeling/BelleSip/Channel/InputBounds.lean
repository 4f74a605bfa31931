import BelleSip.Channel.InputStream

/-
This file proves when the pointers of the input stream stay in its buffer and no scan leaves the received bytes.
-/

namespace BelleSip

open Foundation

namespace InputStream

variable {Message : Type}

/-- The pointers are in the buffer and in order, and unread bytes are terminated. -/
structure InBounds (stream : InputStream Message) : Prop where
  ordered : stream.readPtr ≤ stream.writePtr
  inside : stream.writePtr < networkBufferSize
  terminated : stream.readPtr < stream.writePtr → stream.buff stream.writePtr = 0

/-- The buffer can be scanned from the read pointer on. -/
structure Scannable (stream : InputStream Message) : Prop where
  ordered : stream.readPtr ≤ stream.writePtr
  inside : stream.writePtr < networkBufferSize
  terminated : stream.buff stream.writePtr = 0

/-- A body is only acquired for a message. -/
def HasMessage (stream : InputStream Message) : Prop := stream.state = .bodyAquisition → stream.msg ≠ none

variable {stream : InputStream Message}

theorem InBounds.scannable (inBounds : stream.InBounds) (unread : stream.readPtr < stream.writePtr) :
    stream.Scannable :=
  ⟨inBounds.ordered, inBounds.inside, inBounds.terminated unread⟩

theorem Scannable.inBounds (scannable : stream.Scannable) : stream.InBounds :=
  ⟨scannable.ordered, scannable.inside, fun _ => scannable.terminated⟩

theorem rewind_inBounds (inside : stream.writePtr < networkBufferSize) : stream.rewind.InBounds := by
  rw [rewind]
  split
  · constructor
    · exact Nat.zero_le _
    · exact Nat.lt_of_le_of_lt (Nat.sub_le _ _) inside
    · intro unread
      simp
  · constructor
    · exact Nat.le_refl 0
    · exact Nat.lt_of_le_of_lt (Nat.zero_le _) inside
    · intro unread
      exact absurd unread (Nat.lt_irrefl 0)

/-- The bytes that are left are those that were left before. -/
theorem rewind_left (stream : InputStream Message) :
    stream.rewind.writePtr - stream.rewind.readPtr = stream.writePtr - stream.readPtr := by
  rw [rewind]
  split
  · simp
  · simp only
    omega

@[simp] theorem rewind_state (stream : InputStream Message) : stream.rewind.state = stream.state := by
  rw [rewind]
  split <;> rfl

@[simp] theorem rewind_msg (stream : InputStream Message) : stream.rewind.msg = stream.msg := by
  rw [rewind]
  split <;> rfl

@[simp] theorem rewind_chunkSize (stream : InputStream Message) : stream.rewind.chunkSize = stream.chunkSize := by
  rw [rewind]
  split <;> rfl

@[simp] theorem reset_state (stream : InputStream Message) : stream.reset.state = .waitingMessageStart := rfl

theorem reset_inBounds (inside : stream.writePtr < networkBufferSize) : stream.reset.InBounds := by
  obtain ⟨ordered, inside, terminated⟩ := rewind_inBounds inside
  exact ⟨ordered, inside, terminated⟩

theorem hasMessage_of_state (other : stream.state ≠ .bodyAquisition) : stream.HasMessage := by
  intro body
  exact absurd body other

theorem messageReady_returns (inside : stream.writePtr < networkBufferSize) (present : stream.msg ≠ none) :
    Checked.Returns stream.messageReady fun ready => ready.InBounds ∧ ready.state = .waitingMessageStart := by
  obtain ⟨msg, is⟩ := Option.ne_none_iff_exists'.mp present
  rw [messageReady, is, Checked.deref_some, Checked.ok_bind, Checked.returns_pure]
  exact ⟨reset_inBounds inside, rfl⟩

theorem feedBody_returns {len : Nat} (received : stream.readPtr + len ≤ stream.writePtr)
    (inside : stream.writePtr < networkBufferSize) :
    Checked.Returns (stream.feedBody len) fun fed => fed.InBounds ∧ fed.state = stream.state ∧ fed.msg = stream.msg ∧
      fed.chunkSize = stream.chunkSize ∧
      fed.writePtr - fed.readPtr = stream.writePtr - stream.readPtr - len := by
  rw [feedBody, if_pos received, Checked.returns_ok]
  refine ⟨rewind_inBounds inside, by simp, by simp, by simp, ?_⟩
  rw [rewind_left]
  simp only
  omega

theorem sizeT_small {value : Int} (positive : 0 ≤ value) (small : value < 18446744073709551616) :
    sizeT value = value.toNat := by
  rw [sizeT, Int.emod_eq_of_lt positive small]

theorem acquireBodySimple_returns (ordered : stream.readPtr ≤ stream.writePtr)
    (inside : stream.writePtr < networkBufferSize) (present : stream.msg ≠ none) (endOfStream : Bool) :
    Checked.Returns (stream.acquireBodySimple endOfStream) fun result =>
      result.1.InBounds ∧ result.1.HasMessage := by
  have size : networkBufferSize = 65535 := rfl
  have toRead : sizeT ((stream.writePtr : Int) - stream.readPtr) = stream.writePtr - stream.readPtr := by
    rw [sizeT_small (by omega) (by omega)]
    omega
  have finish : ∀ fed : InputStream Message, fed.InBounds → fed.msg = stream.msg → Checked.Returns
      (if endOfStream = true ∨ sizeT stream.contentLength ≤ fed.body.length then
        fed.messageReady >>= fun ready => pure (ready, true) else pure (fed, false)) fun result =>
      result.1.InBounds ∧ result.1.HasMessage := by
    intro fed inBounds same
    have present' : fed.msg ≠ none := by
      rw [same]
      exact present
    split
    · rw [Checked.returns_bind]
      apply (messageReady_returns inBounds.inside present').mono
      rintro ready ⟨readyInBounds, waiting⟩
      rw [Checked.returns_pure]
      exact ⟨readyInBounds, hasMessage_of_state (by simp [waiting])⟩
    · rw [Checked.returns_pure]
      exact ⟨inBounds, fun _ => present'⟩
  simp only [acquireBodySimple, toRead]
  split
  next nothing =>
    rw [Checked.returns_bind, Checked.returns_pure]
    apply finish stream _ rfl
    constructor
    · exact ordered
    · exact inside
    · intro unread
      omega
  next some =>
    rw [Checked.returns_bind]
    apply (feedBody_returns (by omega) inside).mono
    rintro fed ⟨inBounds, _, same, _⟩
    exact finish fed inBounds same

/-! The texts that are scanned. -/

theorem slice_length (position size : Nat) : (stream.slice position size).length = size := by
  simp [slice]

/-- A scan ends at the write pointer at the latest. -/
theorem scan_returns (scannable : stream.Scannable) {position : Nat} (before : position ≤ stream.writePtr) :
    Checked.Returns (stream.scan position) fun text => text.length ≤ stream.writePtr - position := by
  rw [scan, if_pos ⟨before, scannable.inside, scannable.terminated⟩, Checked.returns_ok]
  have shorter := (List.takeWhile_prefix (· ≠ 0) (l := stream.slice position (stream.writePtr - position))).length_le
  rw [slice_length] at shorter
  exact shorter

/-- A mark that is found lies in the text. -/
theorem strstr_inside {mark text : CString} {position : Nat} (found : strstr mark text = some position) :
    position + mark.length ≤ text.length := by
  induction text generalizing position with
  | nil =>
      rw [strstr] at found
      split at found
      next empty =>
        cases found
        simp [empty]
      next => cases found
  | cons byte rest ih =>
      rw [strstr] at found
      split at found
      next starts =>
        cases found
        have shorter := starts.length_le
        omega
      next =>
        obtain ⟨before, foundBefore, rfl⟩ := Option.map_eq_some_iff.mp found
        have inside := ih foundBefore
        rw [List.length_cons]
        omega

/-- What the loops over a chunked body keep. -/
structure Chunking (stream : InputStream Message) : Prop where
  scannable : stream.Scannable
  present : stream.msg ≠ none

/-- Every line end that is skipped has been received. -/
theorem skipLineEnds_returns (rounds : Nat) (stream : InputStream Message) (chunking : stream.Chunking)
    (enough : stream.writePtr - stream.readPtr < rounds) :
    Checked.Returns (skipLineEnds rounds stream) fun result => result.1.Chunking ∧
      result.1.state = stream.state ∧
      result.1.writePtr - result.1.readPtr ≤ stream.writePtr - stream.readPtr ∧
      ∀ position ∈ result.2, result.1.readPtr < position ∧ position + 2 ≤ result.1.writePtr := by
  induction rounds generalizing stream with
  | zero => omega
  | succ rounds ih =>
      obtain ⟨⟨ordered, inside, terminated⟩, present⟩ := chunking
      rw [skipLineEnds, Checked.returns_bind]
      apply (scan_returns ⟨ordered, inside, terminated⟩ ordered).mono
      intro text short
      split
      next here =>
        have received := strstr_inside here
        have two : lineEnd.length = 2 := rfl
        have skipped : ({ stream with readPtr := stream.readPtr + 2 } : InputStream Message).Chunking :=
          ⟨⟨by simp only; omega, inside, terminated⟩, present⟩
        apply (ih _ skipped (by simp only; omega)).mono
        rintro result ⟨kept, same, fewer, line⟩
        simp only at fewer
        exact ⟨kept, same, by omega, line⟩
      next notHere =>
        rw [Checked.returns_pure]
        refine ⟨⟨⟨ordered, inside, terminated⟩, present⟩, rfl, Nat.le_refl _, ?_⟩
        intro position found
        obtain ⟨offset, foundOffset, rfl⟩ := Option.map_eq_some_iff.mp found
        have received := strstr_inside foundOffset
        have two : lineEnd.length = 2 := rfl
        have later : offset ≠ 0 := by
          intro zero
          rw [zero] at foundOffset
          exact notHere foundOffset
        simp only
        omega

/-- The line with the size of a chunk is taken from the received bytes; after it bytes are left fewer. -/
theorem acquireChunkLine_returns (chunking : stream.Chunking) :
    Checked.Returns stream.acquireChunkLine fun line =>
      match line with
      | .returns stopped _ => stopped.InBounds ∧ stopped.HasMessage
      | .chunk next => next.Chunking ∧ next.state = stream.state ∧
          next.writePtr - next.readPtr < stream.writePtr - stream.readPtr := by
  rw [acquireChunkLine, Checked.returns_bind]
  apply (skipLineEnds_returns _ stream chunking (Nat.lt_succ_self _)).mono
  rintro ⟨skipped, found⟩ ⟨⟨scannable, present⟩, same, fewer, line⟩
  simp only at same fewer line ⊢
  cases found with
  | none =>
      simp only [Checked.returns_pure]
      exact ⟨scannable.inBounds, fun _ => present⟩
  | some tmp =>
      obtain ⟨later, received⟩ := line tmp rfl
      simp only [Checked.returns_bind]
      apply (scan_returns scannable scannable.ordered).mono
      intro text short
      split
      · split
        · rw [Checked.returns_bind]
          apply (messageReady_returns (by exact scannable.inside) (by exact present)).mono
          rintro ready ⟨inBounds, waiting⟩
          rw [Checked.returns_pure]
          exact ⟨inBounds, hasMessage_of_state (by simp [waiting])⟩
        · rw [Checked.returns_pure]
          refine ⟨⟨⟨by simp only; omega, scannable.inside, scannable.terminated⟩, present⟩, same, ?_⟩
          simp only
          omega
      · rw [Checked.returns_pure]
        exact ⟨reset_inBounds scannable.inside, hasMessage_of_state (by simp)⟩

/-- The bytes of a chunk are taken from the received ones, and when the loop goes on some are left. -/
theorem acquireChunk_returns (chunking : stream.Chunking) :
    Checked.Returns stream.acquireChunk fun acquired =>
      acquired.1.InBounds ∧ acquired.1.msg ≠ none ∧
      acquired.1.writePtr - acquired.1.readPtr ≤ stream.writePtr - stream.readPtr ∧
      (acquired.2 = true → acquired.1.Chunking ∧ acquired.1.chunkSize = -1) := by
  have ordered := chunking.scannable.ordered
  have finish : ∀ (fed : InputStream Message) (size : Int), fed.InBounds → fed.msg ≠ none →
      fed.writePtr - fed.readPtr ≤ stream.writePtr - stream.readPtr → Checked.Returns
      (if fed.chunkSize = size then
        pure ({ fed with chunkReadSize := size, contentLength := fed.contentLength + fed.chunkSize, chunkSize := -1 },
          decide (fed.readPtr < fed.writePtr))
      else pure ({ fed with chunkReadSize := size }, false)) fun acquired =>
      acquired.1.InBounds ∧ acquired.1.msg ≠ none ∧
      acquired.1.writePtr - acquired.1.readPtr ≤ stream.writePtr - stream.readPtr ∧
      (acquired.2 = true → acquired.1.Chunking ∧ acquired.1.chunkSize = -1) := by
    rintro fed size ⟨ordered, inside, terminated⟩ present fewer
    split
    · rw [Checked.returns_pure]
      refine ⟨⟨ordered, inside, terminated⟩, present, fewer, ?_⟩
      intro unread
      exact ⟨⟨⟨ordered, inside, terminated (of_decide_eq_true unread)⟩, present⟩, rfl⟩
    · rw [Checked.returns_pure]
      exact ⟨⟨ordered, inside, terminated⟩, present, fewer, fun stopped => absurd stopped (by simp)⟩
  rw [acquireChunk]
  split
  next some =>
    rw [Checked.returns_bind]
    apply (feedBody_returns (by omega) chunking.scannable.inside).mono
    rintro fed ⟨inBounds, _, same, _, left⟩
    apply finish fed _ inBounds
    · rw [same]
      exact chunking.present
    · omega
  next nothing =>
    rw [Checked.returns_bind, Checked.returns_pure]
    exact finish stream _ chunking.scannable.inBounds chunking.present (Nat.le_refl _)

/-- Every chunk that completes takes bytes away, so that the rounds suffice. -/
theorem acquireChunckedBody_returns (rounds : Nat) (stream : InputStream Message) (chunking : stream.Chunking)
    (enough : stream.writePtr - stream.readPtr + (if stream.chunkSize = -1 then 0 else 1) < rounds) :
    Checked.Returns (acquireChunckedBody rounds stream) fun result => result.1.InBounds ∧ result.1.HasMessage := by
  induction rounds generalizing stream with
  | zero => omega
  | succ rounds ih =>
      have take : ∀ next : InputStream Message, next.Chunking → next.writePtr - next.readPtr < rounds →
          Checked.Returns
          (next.acquireChunk >>= fun acquired =>
            if acquired.2 then acquireChunckedBody rounds acquired.1 else pure acquired) fun result =>
          result.1.InBounds ∧ result.1.HasMessage := by
        intro next chunking fewer
        rw [Checked.returns_bind]
        apply (acquireChunk_returns chunking).mono
        rintro acquired ⟨inBounds, present, left, goesOn⟩
        split
        next again =>
          obtain ⟨kept, waits⟩ := goesOn again
          apply ih acquired.1 kept
          rw [if_pos waits]
          omega
        next =>
          rw [Checked.returns_pure]
          exact ⟨inBounds, fun _ => present⟩
      rw [acquireChunckedBody]
      split at enough
      next waits =>
        rw [if_pos waits, Checked.returns_bind]
        apply (acquireChunkLine_returns chunking).mono
        intro line
        cases line with
        | returns stopped goOn =>
            intro held
            rw [Checked.returns_pure]
            exact held
        | chunk next =>
            rintro ⟨kept, _, fewer⟩
            exact take next kept (by omega)
      next reads =>
        rw [if_neg reads, Checked.returns_bind, Checked.returns_pure]
        exact take stream chunking (by omega)

/-- A body is acquired within the received bytes. -/
theorem acquireBody_returns (scannable : stream.Scannable) (present : stream.msg ≠ none) (endOfStream : Bool) :
    Checked.Returns (stream.acquireBody endOfStream) fun result => result.1.InBounds ∧ result.1.HasMessage := by
  rw [acquireBody]
  split
  · apply acquireChunckedBody_returns _ stream ⟨scannable, present⟩
    split <;> omega
  · exact acquireBodySimple_returns scannable.ordered scannable.inside present endOfStream

/-! The search for a message start. -/

variable {parser : MessageParser Message}

/-- A start that is found is one of the positions that are tried. -/
theorem searchStart_returns (scannable : stream.Scannable) {num : Nat}
    (received : stream.readPtr + num = stream.writePtr)
    (positions : List Nat) (inside : ∀ position ∈ positions, position < num) :
    Checked.Returns (stream.searchStart parser num positions) fun found => ∀ offset ∈ found, offset ∈ positions := by
  induction positions with
  | nil => simp [searchStart]
  | cons position rest ih =>
      have here := inside position List.mem_cons_self
      have later := ih fun other among => inside other (List.mem_cons_of_mem position among)
      have weaken : ∀ found : Option Nat, (∀ offset ∈ found, offset ∈ rest) →
          ∀ offset ∈ found, offset ∈ position :: rest :=
        fun found among offset is => List.mem_cons_of_mem position (among offset is)
      rw [searchStart]
      split
      · exact later.mono weaken
      · have stored : (stream.store (stream.readPtr + num - 1) 0).Scannable := by
          obtain ⟨ordered, inside, terminated⟩ := scannable
          refine ⟨ordered, inside, ?_⟩
          have apart : stream.writePtr ≠ stream.readPtr + num - 1 := by omega
          simp only [store, Function.update_of_ne apart]
          exact terminated
        rw [Checked.returns_bind]
        apply (scan_returns stored (by simp only [store]; omega)).mono
        intro text _
        split
        · rw [Checked.returns_pure]
          intro offset is
          cases is
          exact List.mem_cons_self
        · exact later.mono weaken

theorem getMessageStartPos_returns (scannable : stream.Scannable) :
    Checked.Returns (stream.getMessageStartPos parser (stream.writePtr - stream.readPtr)) fun found =>
      ∀ offset ∈ found, offset < stream.writePtr - stream.readPtr := by
  have ordered := scannable.ordered
  apply (searchStart_returns scannable (by omega) _ _).mono
  · intro found among offset is
    have below := List.mem_range.mp (among offset is)
    omega
  · intro position among
    have below := List.mem_range.mp among
    omega

/-- A search of the trashed buffer scans it: some byte is neither white space nor a terminator at the start. -/
def ScansTrash (stream : InputStream Message) (num : Nat) : Prop :=
  ∃ position < num - 12, stream.buff position ∉ [13, 10, 32, 9] ∧ (stream.buff position = 0 → position ≠ 0)

/-- After the round has trashed the buffer it finds one more line end in it, and searches there. -/
def Retrashes (parser : MessageParser Message) (stream : InputStream Message) : Prop :=
  stream.state = .waitingMessageStart ∧
  stream.getMessageStartPos parser (stream.writePtr - stream.readPtr) = .ok none ∧
  (∃ second < stream.writePtr - stream.readPtr - 1, stream.buff second = 13 ∧ stream.buff (second + 1) = 10 ∧
    ∃ first < second, stream.endsLine first = true) ∧
  stream.ScansTrash (stream.writePtr - stream.readPtr)

/-- The buffer is trashed: both pointers are at its start. -/
structure Trashed (stream : InputStream Message) : Prop where
  read : stream.readPtr = 0
  written : stream.writePtr = 0
  waits : stream.state = .waitingMessageStart

theorem trash_trashed (stream : InputStream Message) : { stream with readPtr := stream.writePtr }.reset.Trashed := by
  constructor <;> simp [reset, rewind]

theorem trash_buff (stream : InputStream Message) :
    { stream with readPtr := stream.writePtr }.reset.buff = stream.buff := by
  simp [reset, rewind]

theorem Trashed.inBounds (trashed : stream.Trashed) : stream.InBounds := by
  obtain ⟨read, written, _⟩ := trashed
  constructor
  · omega
  · rw [written]
    decide
  · omega

/-- A search of a trashed buffer that scans nothing finds nothing. -/
theorem searchStart_trashed (trashed : stream.Trashed) {num : Nat} (unscanned : ¬stream.ScansTrash num)
    (positions : List Nat) (inside : ∀ position ∈ positions, position < num - 12) :
    stream.searchStart parser num positions = .ok none := by
  obtain ⟨read, written, _⟩ := trashed
  induction positions with
  | nil => rfl
  | cons position rest ih =>
      have here := inside position List.mem_cons_self
      have later := ih fun other among => inside other (List.mem_cons_of_mem position among)
      rw [searchStart, later]
      split
      · rfl
      next visible =>
        have start : stream.buff position = 0 ∧ position = 0 := by
          rw [read, Nat.zero_add] at visible
          by_contra other
          exact unscanned ⟨position, here, visible, fun terminator atStart => other ⟨terminator, atStart⟩⟩
        obtain ⟨terminator, rfl⟩ := start
        have apart : (0 : Nat) ≠ num - 1 := by omega
        have empty : (stream.store (stream.readPtr + num - 1) 0).scan (stream.readPtr + 0) = .ok [] := by
          simp [scan, store, slice, read, written, Function.update_of_ne apart, terminator, networkBufferSize]
        rw [empty, Checked.ok_bind, parser.empty]
        rfl

/-- After the buffer has been trashed the loop goes on without a start, when it finds no line end there or scans
nothing. -/
theorem awaitStart_trashed (num : Nat) (positions : List Nat) (trashed : stream.Trashed)
    (harmless : (∀ position ∈ positions, ¬(stream.buff position = 13 ∧ stream.buff (position + 1) = 10)) ∨
      ¬stream.ScansTrash num) :
    Checked.Returns (stream.awaitStart parser num positions) fun result => result.1.Trashed ∧ result.2 = false := by
  induction positions generalizing stream with
  | nil =>
      rw [awaitStart, Checked.returns_pure]
      exact ⟨trashed, rfl⟩
  | cons position rest ih =>
      obtain ⟨read, written, waits⟩ := trashed
      rw [awaitStart]
      split
      next ends =>
        have lineEnds : stream.buff position = 13 ∧ stream.buff (position + 1) = 10 := by
          simpa [endsLine, read, written, buffLength, networkBufferSize] using ends
        have unscanned : ¬stream.ScansTrash num := by
          rcases harmless with none | unscanned
          · exact absurd lineEnds (none position List.mem_cons_self)
          · exact unscanned
        have nothing : stream.getMessageStartPos parser num = .ok none :=
          searchStart_trashed ⟨read, written, waits⟩ unscanned _ fun position among => List.mem_range.mp among
        rw [nothing, Checked.ok_bind]
        apply ih (trash_trashed stream)
        right
        rw [ScansTrash, trash_buff]
        exact unscanned
      next =>
        apply ih ⟨read, written, waits⟩
        rcases harmless with none | unscanned
        · left
          intro other among
          exact none other (List.mem_cons_of_mem position among)
        · right
          exact unscanned

/-- The wait for a message start ends at a start or with a buffer that needs more bytes, unless the round trashes the
buffer and then searches in it. -/
theorem awaitStart_returns (scannable : stream.Scannable) (waits : stream.state = .waitingMessageStart)
    (once : ¬stream.Retrashes parser) (positions : List Nat) (start : Nat)
    (are : positions = List.range' start (stream.writePtr - stream.readPtr - 1 - start)) :
    Checked.Returns (stream.awaitStart parser (stream.writePtr - stream.readPtr) positions) fun result =>
      result.1.InBounds ∧ (if result.2 = true then result.1.Scannable ∧ result.1.state = .messageAquisition
        else result.1.state = .waitingMessageStart) := by
  induction positions generalizing start with
  | nil =>
      rw [awaitStart, Checked.returns_pure]
      exact ⟨scannable.inBounds, by simpa using waits⟩
  | cons position rest ih =>
      have inside : position = start ∧ start < stream.writePtr - stream.readPtr - 1 ∧
          rest = List.range' (start + 1) (stream.writePtr - stream.readPtr - 1 - (start + 1)) := by
        cases left : stream.writePtr - stream.readPtr - 1 - start with
        | zero =>
            rw [left] at are
            cases are
        | succ fewer =>
            rw [left, List.range'_succ] at are
            cases are
            refine ⟨rfl, by omega, ?_⟩
            congr 1
            omega
      obtain ⟨rfl, below, others⟩ := inside
      rw [awaitStart]
      split
      next ends =>
        rw [Checked.returns_bind]
        have searching : Checked.Returns (stream.getMessageStartPos parser (stream.writePtr - stream.readPtr))
            fun found => ∀ offset ∈ found, offset < stream.writePtr - stream.readPtr :=
          getMessageStartPos_returns scannable
        obtain ⟨found, searched, offsetInside⟩ := searching
        refine ⟨found, searched, ?_⟩
        cases found with
        | some offset =>
            have received := offsetInside offset rfl
            have moved : ({ stream with readPtr := stream.readPtr + offset, state := .messageAquisition } :
                InputStream Message).Scannable :=
              ⟨by simp only; omega, scannable.inside, scannable.terminated⟩
            simp only [Checked.returns_pure]
            exact ⟨moved.inBounds, by simpa using moved⟩
        | none =>
            apply (awaitStart_trashed _ rest (trash_trashed stream) _).mono
            · rintro result ⟨trashed, nothing⟩
              refine ⟨trashed.inBounds, ?_⟩
              rw [nothing]
              exact trashed.waits
            · rw [ScansTrash, trash_buff]
              by_contra harm
              rw [not_or, not_not] at harm
              obtain ⟨line, scans⟩ := harm
              push Not at line
              obtain ⟨second, among, carriageReturn, lineFeed⟩ := line
              rw [others, List.mem_range'_1] at among
              exact once ⟨waits, searched,
                ⟨second, by omega, carriageReturn, lineFeed, position, by omega, ends⟩, scans⟩
      next => exact ih (position + 1) others

/-- What is known after the part of the loop that acquires a message. -/
def Acquired (result : InputStream Message × Flow) : Prop :=
  if result.2 = .body then result.1.Scannable ∧ result.1.msg ≠ none else result.1.InBounds ∧ result.1.HasMessage

@[simp] theorem checkBody_readPtr (msg : Message) : (stream.checkBody parser msg).1.readPtr = stream.readPtr := by
  simp only [checkBody]
  repeat' split
  all_goals rfl

@[simp] theorem checkBody_writePtr (msg : Message) : (stream.checkBody parser msg).1.writePtr = stream.writePtr := by
  simp only [checkBody]
  repeat' split
  all_goals rfl

@[simp] theorem checkBody_buff (msg : Message) : (stream.checkBody parser msg).1.buff = stream.buff := by
  simp only [checkBody]
  repeat' split
  all_goals rfl

@[simp] theorem checkBody_msg (msg : Message) : (stream.checkBody parser msg).1.msg = stream.msg := by
  simp only [checkBody]
  repeat' split
  all_goals rfl

/-- A message without a length and a type has no body. -/
theorem checkBody_bare {msg : Message} (noLength : parser.contentLength msg = none)
    (noType : parser.hasContentType msg = false) : (stream.checkBody parser msg).2 = false := by
  simp [checkBody, noLength, noType]

/-- The read pointer may lie behind the write pointer here, when no body is expected. -/
theorem acquireParsed_returns {msg : Message} (inside : stream.writePtr < networkBufferSize)
    (terminated : stream.buff stream.writePtr = 0) (present : stream.msg ≠ none)
    (ordered : (stream.checkBody parser msg).2 = true → stream.readPtr ≤ stream.writePtr) :
    Checked.Returns (stream.acquireParsed parser msg) Acquired := by
  simp only [acquireParsed]
  split
  next expects =>
    rw [Checked.returns_pure, Acquired, if_pos rfl]
    refine ⟨⟨?_, ?_, ?_⟩, ?_⟩
    · simpa using ordered expects
    · simpa using inside
    · simpa using terminated
    · simpa using present
  next =>
    rw [Checked.returns_bind]
    apply (messageReady_returns (by simpa using inside) (by simpa using present)).mono
    rintro ready ⟨inBounds, waits⟩
    rw [Checked.returns_pure, Acquired, if_neg (by simp)]
    exact ⟨inBounds, hasMessage_of_state (by simp [waits])⟩

/-- A message is parsed from the received bytes, and it is there when its body is acquired. -/
theorem acquireMessage_returns (scannable : stream.Scannable) (acquires : stream.state = .messageAquisition) :
    Checked.Returns (stream.acquireMessage parser) Acquired := by
  rw [acquireMessage, Checked.returns_bind]
  apply (scan_returns scannable scannable.ordered).mono
  intro text short
  cases found : strstr headerEnd text with
  | none =>
      simp only [Checked.returns_pure]
      exact ⟨scannable.inBounds, hasMessage_of_state (by simp [acquires])⟩
  | some position =>
      have received := strstr_inside found
      have four : headerEnd.length = 4 := rfl
      have skips : ∀ skipped : InputStream Message, skipped.readPtr = stream.readPtr + (position + 4) →
          skipped.writePtr = stream.writePtr → skipped.buff = stream.buff → skipped.state = .waitingMessageStart →
          Checked.Returns (pure (skipped, .next)) Acquired := by
        intro skipped read written bytes waits
        rw [Checked.returns_pure]
        refine ⟨⟨?_, ?_, ?_⟩, hasMessage_of_state (by simp [waits])⟩
        · have ordered := scannable.ordered
          simp only
          omega
        · simp only [written]
          exact scannable.inside
        · intro unread
          simp only [written, bytes]
          exact scannable.terminated
      simp only
      cases parsed : parser.parseRaw (stream.slice stream.readPtr (position + 4)) with
      | mk parsedMessage parsedSize =>
          cases parsedMessage with
          | none => exact skips _ rfl rfl rfl rfl
          | some msg =>
              simp only
              split
              · apply acquireParsed_returns
                · exact scannable.inside
                · exact scannable.terminated
                · simp
                · intro expects
                  cases parsedSize with
                  | none =>
                      obtain ⟨noLength, noType⟩ := parser.bare _ msg parsed
                      rw [checkBody_bare noLength noType] at expects
                      cases expects
                  | some size =>
                      have bounded := parser.parsed_le _ size (by rw [parsed])
                      have ordered := scannable.ordered
                      rw [slice_length] at bounded
                      simp only [Option.getD_some]
                      omega
              · exact skips _ rfl rfl rfl rfl

theorem endRound_returns {acquired : InputStream Message × Flow} (held : Acquired acquired) (endOfStream : Bool) :
    Checked.Returns (endRound acquired endOfStream) fun result => result.1.InBounds ∧ result.1.HasMessage := by
  obtain ⟨acquired, flow⟩ := acquired
  cases flow with
  | next => exact Checked.returns_pure.mpr (by simpa [Acquired] using held)
  | stop => exact Checked.returns_pure.mpr (by simpa [Acquired] using held)
  | body =>
      obtain ⟨kept, present⟩ : acquired.Scannable ∧ acquired.msg ≠ none := by simpa [Acquired] using held
      exact acquireBody_returns kept present endOfStream

/-- A round of the parser returns with its pointers in bounds, unless it trashes the buffer and then searches in it. -/
theorem parseRound_returns (inBounds : stream.InBounds) (hasMessage : stream.HasMessage)
    (unread : stream.readPtr < stream.writePtr) (once : ¬stream.Retrashes parser) (endOfStream : Bool) :
    Checked.Returns (stream.parseRound parser endOfStream) fun result =>
      result.1.InBounds ∧ result.1.HasMessage := by
  have scannable := inBounds.scannable unread
  simp only [parseRound]
  split
  next waits =>
    rw [Checked.returns_bind]
    apply (awaitStart_returns scannable waits once _ 0 (by rw [List.range_eq_range', Nat.sub_zero])).mono
    rintro ⟨started, found⟩ ⟨startedInBounds, whether⟩
    cases found with
    | true =>
        obtain ⟨kept, acquires⟩ := whether
        simp only at acquires
        simp only [acquires, if_true, Checked.returns_bind]
        exact (acquireMessage_returns kept acquires).mono fun acquired held => endRound_returns held endOfStream
    | false =>
        simp only [Bool.false_eq_true, if_false, Checked.returns_pure] at whether ⊢
        exact ⟨startedInBounds, hasMessage_of_state (by simp [whether])⟩
  next =>
    simp only [Checked.returns_bind, Checked.returns_pure, if_true]
    split
    next acquires =>
      rw [Checked.returns_bind]
      exact (acquireMessage_returns scannable acquires).mono fun acquired held => endRound_returns held endOfStream
    next reads =>
      rw [Checked.returns_bind, Checked.returns_pure]
      apply endRound_returns
      rw [Acquired, if_pos rfl]
      refine ⟨scannable, hasMessage ?_⟩
      cases is : stream.state with
      | waitingMessageStart => contradiction
      | messageAquisition => contradiction
      | bodyAquisition => rfl

end InputStream

namespace Reading

variable {Message : Type} {parser : MessageParser Message}

/-- The pointers of the input stream are in bounds, and a body is only acquired for a message. -/
structure Sound (reading : Reading Message) : Prop where
  inBounds : reading.stream.InBounds
  hasMessage : reading.stream.HasMessage

/-- The bytes that are asked for fit behind the write pointer, with a terminator. -/
theorem processReadData_returns {reading : Reading Message} (sound : reading.Sound) (result : RecvResult) :
    Checked.Returns (reading.processReadData result) Sound := by
  obtain ⟨⟨ordered, inside, terminated⟩, hasMessage⟩ := sound
  have length : reading.stream.buffLength = networkBufferSize - reading.stream.writePtr := rfl
  simp only [processReadData]
  rw [if_neg (by omega)]
  cases result with
  | error => exact Checked.returns_ok.mpr ⟨⟨ordered, inside, terminated⟩, hasMessage⟩
  | available bytes =>
      have fits := List.length_take_le (reading.stream.buffLength - 1).toNat bytes
      simp only
      split
      · rw [Checked.returns_ok]
        refine ⟨⟨?_, ?_, fun _ => ?_⟩, hasMessage⟩
        · simp only
          omega
        · simp only
          omega
        · simp
      · rw [Checked.returns_ok]
        exact ⟨⟨ordered, inside, terminated⟩, hasMessage⟩

/-- The next round does not trash the buffer and then search in it. -/
def TrashesOnce (parser : MessageParser Message) (reading : Reading Message) (event : ReadEvent) : Prop :=
  event = .parseRound → ¬reading.stream.Retrashes parser

/-- One callback keeps the pointers in bounds. -/
theorem step_returns {reading : Reading Message} (sound : reading.Sound) (event : ReadEvent)
    (once : reading.TrashesOnce parser event) : Checked.Returns (step parser (.ok reading) event) Sound := by
  rw [step, Checked.ok_bind]
  cases event with
  | processReadData result =>
      cases reading.parsing with
      | none => exact processReadData_returns sound result
      | some endOfStream => exact Checked.returns_pure.mpr sound
  | parseRound =>
      cases reading.parsing with
      | none => exact Checked.returns_pure.mpr sound
      | some endOfStream =>
          simp only
          split
          next unread =>
            rw [Checked.returns_bind]
            apply (InputStream.parseRound_returns sound.inBounds sound.hasMessage unread (once rfl) endOfStream).mono
            rintro ⟨stream, goesOn⟩ ⟨inBounds, hasMessage⟩
            exact Checked.returns_pure.mpr ⟨inBounds, hasMessage⟩
          next => exact Checked.returns_pure.mpr ⟨sound.inBounds, sound.hasMessage⟩

theorem initial_sound : ({} : Reading Message).Sound := by
  constructor
  · constructor
    · exact Nat.le_refl 0
    · show 0 < networkBufferSize
      decide
    · intro unread
      exact absurd unread (Nat.lt_irrefl 0)
  · exact InputStream.hasMessage_of_state (by simp)

/-- In every run in which no round trashes the buffer and then searches in it, the pointers stay in the buffer and in
order, every scan ends at a terminator at the write pointer, and no negative number of bytes is asked for. -/
theorem run_inBounds (parser : MessageParser Message) (events : List ReadEvent)
    (once : Machine.Along (step parser) (fun reading event => Checked.OnReturn reading fun reading =>
      reading.TrashesOnce parser event) (.ok {}) events) :
    Checked.Returns (Machine.run (step parser) (.ok {}) events) Sound := by
  have preserved : ∀ (reading : Checked (Reading Message)) (event : ReadEvent), Checked.Returns reading Sound →
      (Checked.OnReturn reading fun reading => reading.TrashesOnce parser event) →
      Checked.Returns (step parser reading event) Sound := by
    rintro reading event ⟨before, rfl, sound⟩ trashesOnce
    exact step_returns sound event trashesOnce
  have initial : Checked.Returns (.ok ({} : Reading Message)) Sound := Checked.returns_ok.mpr initial_sound
  exact Machine.run_invariant preserved initial once

instance (stream : InputStream Message) (num : Nat) : Decidable (stream.ScansTrash num) :=
  inferInstanceAs (Decidable (∃ position < num - 12, _))

instance (stream : InputStream Message) : Decidable (stream.Retrashes parser) :=
  inferInstanceAs (Decidable (_ ∧ _))

instance (reading : Reading Message) (event : ReadEvent) : Decidable (reading.TrashesOnce parser event) :=
  match event with
  | .processReadData _ => isTrue fun other => by cases other
  | .parseRound => decidable_of_iff (¬reading.stream.Retrashes parser) ⟨fun once _ => once, fun once => once rfl⟩

instance (property : Reading Message → Prop) [DecidablePred property] (reading : Checked (Reading Message)) :
    Decidable (Checked.OnReturn reading property) :=
  match reading with
  | .ok reading => inferInstanceAs (Decidable (property reading))
  | .error _ => isTrue trivial

/-- A parser for the responses below, which have no body. -/
def statusParser : MessageParser Unit where
  startsMessage text := [83, 73, 80, 47, 50, 46, 48, 32, 50] <+: text
  parseRaw text := (some (), some text.length)
  isSip _ := true
  contentLength _ := some 0
  hasContentType _ := false
  isChunked _ := false
  empty := rfl
  parsed_le text size := by
    rintro ⟨⟩
    exact Nat.le_refl _
  bare text message := by
    rintro ⟨⟩

/-- The line `SIP/2.0 200 OK` and the header `l:0`. -/
def response : List UInt8 :=
  [83, 73, 80, 47, 50, 46, 48, 32, 50, 48, 48, 32, 79, 75, 13, 10, 108, 58, 48, 13, 10, 13, 10]

theorem run_inBounds_response :
    Checked.Returns (Machine.run (step statusParser) (.ok {})
      [.processReadData (.available response), .parseRound, .parseRound]) Sound :=
  run_inBounds statusParser _ (by decide +kernel)

/-- Two line ends in front of bytes that start no message. -/
def garbage : List UInt8 := [120, 13, 10, 121, 13, 10] ++ List.replicate 11 122

/-- The round that trashes these bytes searches them again behind the write pointer. -/
theorem not_run_inBounds_garbage :
    ¬Checked.Returns (Machine.run (step statusParser) (.ok {})
      [.processReadData (.available garbage), .parseRound]) Sound := by
  have stops : Machine.run (step statusParser) (.ok {}) [.processReadData (.available garbage), .parseRound] =
      .error .fatal := rfl
  rintro ⟨reading, returned, _⟩
  rw [stops] at returned
  cases returned

end Reading

end BelleSip
