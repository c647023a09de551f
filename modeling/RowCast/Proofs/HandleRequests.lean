import RowCast.Proofs.Cells
import RowCast.Proofs.Slices

/-!
# Requests on handles of tables

A handle that a table hands out answers every request until its release: the length that it reports,
and the units of its content at the positions asked for. The first release is counted. After it
every request fails and changes nothing. So a content can be read in pieces of any size, whatever
length is reported.
-/

namespace RowCast

/-- A request on the handle of a large object. -/
inductive ObjectRequest where
  | length
  | read (offset count : UInt64)
  | free
  deriving DecidableEq

/-- A request on the handle of a document. -/
inductive DocumentRequest where
  | text
  | free
  deriving DecidableEq

/-- What a request on a handle is answered. -/
inductive HandleReply (κ : Type) where
  | length (units : Nat)
  | content (c : κ)
  | freed

namespace Step

variable {σ α : Type}

/-- Perform steps one after the other, whatever they answer. -/
def each : List (Step σ α) → σ → List (Except Error α) × σ
  | [], s => ([], s)
  | x :: rest, s => ((x s).1 :: (each rest (x s).2).1, (each rest (x s).2).2)

/-- Steps in two parts go on where the first part has ended. -/
theorem each_append (front back : List (Step σ α)) (s : σ) :
    each (front ++ back) s =
      ((each front s).1 ++ (each back (each front s).2).1, (each back (each front s).2).2) := by
  induction front generalizing s with
  | nil => rfl
  | cons x front ih => simp only [List.cons_append, each, ih]

/-- Requests that each leave a state as it is are answered as they are in this state. -/
theorem each_of_unchanged {ρ : Type} {serve : ρ → Step σ α} {answer : ρ → Except Error α} {s : σ}
    {requests : List ρ} (h : ∀ r ∈ requests, serve r s = (answer r, s)) :
    each (requests.map serve) s = (requests.map answer, s) := by
  induction requests with
  | nil => rfl
  | cons r rest ih =>
    rw [List.map_cons, each, h r List.mem_cons_self, ih fun q hq => h q (List.mem_cons_of_mem r hq),
      List.map_cons]

end Step

/-- Serve a request on a large object. -/
def LargeObject.serve {σ η κ : Type} (object : LargeObject σ η κ) :
    ObjectRequest → Step (η × σ) (HandleReply κ)
  | .length => object.length.map .length
  | .read offset count => (object.read offset.toNat count.toNat).map .content
  | .free => object.free.map fun _ => .freed

/-- Serve a request on a document. -/
def XmlDocument.serve {σ η : Type} (document : XmlDocument σ η) :
    DocumentRequest → Step (η × σ) (HandleReply String)
  | .text => document.text.map .content
  | .free => document.free.map fun _ => .freed

/--
Read a large object in chunks of a size from a position on, up to a chunk that is empty; nothing if
the fuel runs out before.
-/
def LargeObject.chunks? {σ η κ : Type} (object : LargeObject σ η κ) (isEmpty : κ → Bool)
    (size : Nat) : Nat → Nat → η × σ → Option (Except Error (List κ) × η × σ)
  | 0, _, _ => none
  | fuel + 1, offset, s =>
    match object.read offset size s with
    | (.error e, s) => some (.error e, s)
    | (.ok chunk, s) =>
      if isEmpty chunk then some (.ok [], s)
      else (chunks? object isEmpty size fuel (offset + size) s).map fun (rest, s) =>
        (rest.map (chunk :: ·), s)

namespace TableHandle

variable {υ κ ρ α : Type} {handle : TableHandle υ} {t : ResultTable}

/--
Requests on handles of tables are served in one way: one of them releases the handle, and the
others look at it while it is not released.
-/
structure Serves (serve : ρ → Step (TableHandle υ × ResultTable) α) (release : ρ)
    (reply : TableHandle υ → ρ → α) : Prop where
  look (r : ρ) (h : r ≠ release) : serve r = whileOpen fun handle => reply handle r
  release (handle : TableHandle υ) (t : ResultTable) : serve release (handle, t) =
    ((free (handle, t)).1.map fun _ => reply handle release, (free (handle, t)).2)

/--
The requests before the first release are answered and change nothing. The release succeeds and is
counted once. All requests after it fail and change nothing.
-/
def ReleasedOnce (serve : ρ → Step (TableHandle υ × ResultTable) α) (release : ρ)
    (reply : TableHandle υ → ρ → α) (handle : TableHandle υ) (t : ResultTable) : Prop :=
  ∀ before after : List ρ, release ∉ before →
    Step.each (before.map serve) (handle, t) =
      (before.map fun r => .ok (reply handle r), handle, t) ∧
    Step.each ((before ++ release :: after).map serve) (handle, t) =
      ((before ++ [release]).map (fun r => .ok (reply handle r)) ++
          after.map fun _ => .error (.driver "handle already freed"),
        { handle with freed := true }, { t with released := t.released + 1 })

namespace Serves

variable {serve : ρ → Step (TableHandle υ × ResultTable) α} {release : ρ}
  {reply : TableHandle υ → ρ → α}

/-- A look at a handle that is not released is answered and changes nothing. -/
theorem look_open (h : Serves serve release reply) (hopen : handle.freed = false) {r : ρ}
    (hr : r ≠ release) : serve r (handle, t) = (.ok (reply handle r), handle, t) := by
  simp [h.look r hr, whileOpen, hopen]

/-- The release of a handle that is not released succeeds and is counted. -/
theorem release_open (h : Serves serve release reply) (hopen : handle.freed = false) :
    serve release (handle, t) =
      (.ok (reply handle release), { handle with freed := true },
        { t with released := t.released + 1 }) := by
  simp [h.release, free, hopen, Except.map]

/-- On a handle that is released every request fails and changes nothing. -/
theorem of_freed (h : Serves serve release reply) (hfreed : handle.freed = true) (r : ρ) :
    serve r (handle, t) = (.error (.driver "handle already freed"), handle, t) := by
  by_cases hr : r = release
  · rw [hr]
    simp [h.release, free, hfreed, Except.map]
  · simp [h.look r hr, whileOpen, hfreed]

/-- A handle that is not released answers requests until its release, which is counted once. -/
theorem releasedOnce (h : Serves serve release reply) (hopen : handle.freed = false) :
    ReleasedOnce serve release reply handle t := by
  intro before after hbefore
  have hfirst : Step.each (before.map serve) (handle, t) =
      (before.map fun r => .ok (reply handle r), handle, t) :=
    Step.each_of_unchanged fun r hr =>
      h.look_open hopen fun hrelease => hbefore (hrelease ▸ hr)
  have hlast (u : ResultTable) : Step.each (after.map serve) ({ handle with freed := true }, u) =
      (after.map fun _ => .error (.driver "handle already freed"),
        { handle with freed := true }, u) :=
    Step.each_of_unchanged fun r _ => h.of_freed rfl r
  refine ⟨hfirst, ?_⟩
  rw [List.map_append, List.map_cons, Step.each_append, hfirst, Step.each, h.release_open hopen,
    hlast, List.map_append, List.append_assoc]
  rfl

end Serves

/-- What a handle of a large object replies to a request before its release. -/
def objectReply (make : List υ → κ) (handle : TableHandle υ) : ObjectRequest → HandleReply κ
  | .length => .length handle.length
  | .read offset count =>
    .content (make (unitsBetween offset.toNat (offset.toNat + count.toNat) handle.content))
  | .free => .freed

/-- What a handle of a document replies to a request before its release. -/
def documentReply (handle : TableHandle Char) : DocumentRequest → HandleReply String
  | .text => .content (String.ofList handle.content)
  | .free => .freed

/-- Mapping a look at a handle is a look at it. -/
theorem map_whileOpen {β : Type} (f : α → β) (use : TableHandle υ → α) :
    (whileOpen use).map f = whileOpen fun handle => f (use handle) := by
  funext s
  rw [Step.map_apply, whileOpen, whileOpen]
  split <;> rfl

/-- Large objects of tables serve their requests by their content. -/
theorem object_serves (make : List υ → κ) :
    Serves (object make).serve .free (objectReply make) where
  look r h := by
    cases r with
    | length => exact map_whileOpen HandleReply.length (·.length)
    | read offset count =>
      simp only [LargeObject.serve, objectReply, object, map_whileOpen, slice_eq_unitsBetween]
    | free => exact absurd rfl h
  release handle t := Step.map_apply _ _ _

/-- Documents of tables serve their requests by their content. -/
theorem document_serves : Serves ResultTable.rowSource.xml.serve .free documentReply where
  look r h := by
    cases r with
    | text => exact map_whileOpen HandleReply.content fun handle => String.ofList handle.content
    | free => exact absurd rfl h
  release handle t := Step.map_apply _ _ _

/-- A read of a large object before its release answers a slice and changes nothing. -/
theorem object_read (make : List υ → κ) (hopen : handle.freed = false) (offset count : Nat) :
    (object make).read offset count (handle, t) =
      (.ok (make (handle.slice offset count)), handle, t) := by
  simp [object, whileOpen, hopen]

/-- A request to read a large object before its release answers the slice that it names. -/
theorem serve_read (make : List υ → κ) (hopen : handle.freed = false) (offset count : UInt64) :
    (object make).serve (.read offset count) (handle, t) =
      (.ok (.content (make (handle.slice offset.toNat count.toNat))), handle, t) := by
  rw [LargeObject.serve, Step.map_apply, object_read make hopen]
  rfl

/--
A content is read whole in chunks of a positive size, whatever length its handle reports. The last
position that is read at is less than a chunk behind the end.
-/
theorem chunks?_object {make : List υ → κ} {isEmpty : κ → Bool}
    (hempty : ∀ units, isEmpty (make units) = units.isEmpty) (hopen : handle.freed = false)
    {size : Nat} (hsize : 0 < size) {fuel offset : Nat}
    (hfuel : handle.content.length - offset < fuel) :
    ∃ pieces, (object make).chunks? isEmpty size fuel offset (handle, t) =
        some (.ok (pieces.map make), handle, t) ∧
      pieces.flatten = handle.content.drop offset ∧
      (pieces ≠ [] → offset + pieces.length * size < handle.content.length + size) := by
  -- A chunk that is not empty brings the position nearer to the end, and takes one unit of fuel.
  induction fuel generalizing offset with
  | zero => omega
  | succ fuel ih =>
    rw [LargeObject.chunks?, object_read make hopen]
    dsimp only
    rw [hempty]
    by_cases hend : handle.content.length ≤ offset
    · have hnothing : handle.content.drop offset = [] := List.drop_of_length_le hend
      refine ⟨[], ?_, hnothing.symm, fun h => absurd rfl h⟩
      rw [slice, hnothing, List.take_nil]
      rfl
    · have hrest : handle.content.length - (offset + size) < fuel := by omega
      obtain ⟨pieces, hread, hflatten, hlast⟩ := ih hrest
      have hfound : (handle.slice offset size).isEmpty = false := by
        rw [List.isEmpty_eq_false_iff, ← List.length_pos_iff, slice, List.length_take,
          List.length_drop]
        omega
      refine ⟨handle.slice offset size :: pieces, ?_, ?_, fun _ => ?_⟩
      · rw [hfound, hread]
        rfl
      · rw [List.flatten_cons, hflatten, slice, ← List.drop_drop, List.take_append_drop]
      · rw [List.length_cons, Nat.succ_mul]
        cases pieces with
        | nil => simp; omega
        | cons piece more =>
          have := hlast (List.cons_ne_nil piece more)
          omega

/--
Through a large object a handle answers as its content says, whatever length it reports: requests
until its release, reads one behind the other, and reads in chunks up to an empty one.
-/
structure ReadsContent (object : LargeObject ResultTable (TableHandle υ) κ) (make : List υ → κ)
    (join : List κ → κ) (isEmpty : κ → Bool) (handle : TableHandle υ) (t : ResultTable) :
    Prop where
  releasedOnce : ReleasedOnce object.serve .free (objectReply make) handle t
  consecutive (offset a b : UInt64) (h : offset.toNat + a.toNat + b.toNat < 2 ^ 64) :
    ∃ front back, Step.each ([.read offset a, .read (offset + a) b].map object.serve)
          (handle, t) = ([.ok (.content front), .ok (.content back)], handle, t) ∧
      object.serve (.read offset (a + b)) (handle, t) =
        (.ok (.content (join [front, back])), handle, t)
  chunked (size : UInt64) (hsize : 0 < size) (fuel : Nat) (hfuel : handle.content.length < fuel) :
    ∃ pieces, object.chunks? isEmpty size.toNat fuel 0 (handle, t) =
        some (.ok pieces, handle, t) ∧
      join pieces = make handle.content ∧
      (handle.content.length ≤ 2 ^ 63 → pieces.length * size.toNat < 2 ^ 64)

/-- A handle that is not released reads its content, if pieces of it join to what it makes. -/
theorem readsContent {make : List υ → κ} {join : List κ → κ} {isEmpty : κ → Bool}
    (hjoin : ∀ pieces : List (List υ), join (pieces.map make) = make pieces.flatten)
    (hempty : ∀ units, isEmpty (make units) = units.isEmpty) (hopen : handle.freed = false) :
    ReadsContent (object make) make join isEmpty handle t where
  releasedOnce := (object_serves make).releasedOnce hopen
  consecutive offset a b h := by
    have hoffset : (offset + a).toNat = offset.toNat + a.toNat := by
      rw [UInt64.toNat_add, Nat.mod_eq_of_lt (by omega)]
    have hcount : (a + b).toNat = a.toNat + b.toNat := by
      rw [UInt64.toNat_add, Nat.mod_eq_of_lt (by omega)]
    let front := handle.slice offset.toNat a.toNat
    let back := handle.slice (offset.toNat + a.toNat) b.toNat
    have hwhole : join [make front, make back] =
        make (handle.slice offset.toNat (a.toNat + b.toNat)) := by
      rw [← slice_append]
      simpa using hjoin [front, back]
    refine ⟨make front, make back, ?_, ?_⟩
    · simp only [List.map_cons, List.map_nil, Step.each, serve_read make hopen, hoffset, front,
        back]
    · rw [serve_read make hopen, hcount, hwhole]
  chunked size hsize fuel hfuel := by
    have hpositive : 0 < size.toNat := UInt64.lt_iff_toNat_lt.mp hsize
    have hlength : handle.content.length - 0 < fuel := hfuel
    obtain ⟨pieces, hread, hflatten, hlast⟩ :=
      chunks?_object (t := t) hempty hopen hpositive hlength
    refine ⟨pieces.map make, hread, ?_, fun hlong => ?_⟩
    · rw [hjoin, hflatten, List.drop_zero]
    · have hword := size.toNat_lt
      rw [List.length_map]
      -- One chunk may be longer than the content; with two of them the size is within it.
      rcases pieces with _ | ⟨piece, _ | ⟨next, more⟩⟩
      · simp
      · simpa using hword
      · have hend := hlast (List.cons_ne_nil piece (next :: more))
        rw [List.length_cons, List.length_cons, Nat.succ_mul, Nat.succ_mul] at hend ⊢
        omega

end TableHandle

namespace ResultTable

variable {t u : ResultTable} {index : Nat} {cell : Cell}

/-- A handle that is opened is the one that the cell gives, and only the indicator is set. -/
theorem fetch_opened {υ : Type} {opening : Cell → Except Error (Option (TableHandle υ))}
    {handle : TableHandle υ} (h : fetch opening index t = (.ok (some handle), u)) :
    ∃ cell, t.cell index = .ok cell ∧ opening cell = .ok (some handle) ∧ u = t.after cell 0 := by
  obtain ⟨cell, hcell, hopening⟩ := fetch_eq_ok_iff.mp (congrArg Prod.fst h)
  refine ⟨cell, hcell, hopening, ?_⟩
  rw [fetch_of_cell hcell] at h
  exact (congrArg Prod.snd h).symm

/-- A handle on bytes holds the bytes of its cell. -/
theorem blobOf_content {handle : TableHandle UInt8} (h : blobOf cell = .ok (some handle)) :
    cell.largeBytes? = some handle.content := by
  unfold blobOf at h
  split at h <;> cases h <;> rfl

/-- A handle on text holds the characters of the text of its cell. -/
theorem clobOf_content {handle : TableHandle Char} (h : clobOf cell = .ok (some handle)) :
    cell.largeText? = some (String.ofList handle.content) := by
  unfold clobOf at h
  split at h <;> cases h <;> simp [Cell.largeText?]

/-- A handle on a document holds the text of its cell. -/
theorem xmlOf_content {handle : TableHandle Char} (h : xmlOf cell = .ok (some handle)) :
    cell.document? = some (String.ofList handle.content) := by
  unfold xmlOf at h
  split at h <;> cases h <;> simp [Cell.document?]

/-- Texts of characters join to the text of all characters. -/
theorem join_map_ofList (pieces : List (List Char)) :
    String.join (pieces.map String.ofList) = String.ofList pieces.flatten := by
  induction pieces with
  | nil => rfl
  | cons piece rest ih =>
    rw [List.map_cons, String.join_cons, ih, List.flatten_cons, String.ofList_append]

/--
The handles that a table gives hold what the current cell holds, bytes or characters. Each answers
every request until its release by this content, at any positions that words can tell, in pieces of
any size, and whatever length it reports. It is released once, which alone is counted.
-/
theorem opened_handle_reads_content (t u : ResultTable) (index : Nat) :
    (∀ handle, rowSource.openBlob index t = (.ok (some handle), u) →
      (∃ cell, t.cell index = .ok cell ∧ cell.largeBytes? = some handle.content ∧
        u = t.after cell 0) ∧
      TableHandle.ReadsContent rowSource.blob id List.flatten List.isEmpty handle u ∧
      (handle.content.length < 2 ^ 64 → ∀ offset count : UInt64, handle.sliceInWords offset count =
        TableHandle.unitsBetween offset.toNat (offset.toNat + count.toNat) handle.content)) ∧
    (∀ handle, (rowSource.openClob index t = (.ok (some handle), u) ∨
        rowSource.openNationalClob index t = (.ok (some handle), u)) →
      (∃ cell, t.cell index = .ok cell ∧
        cell.largeText? = some (String.ofList handle.content) ∧ u = t.after cell 0) ∧
      TableHandle.ReadsContent rowSource.clob String.ofList String.join String.isEmpty handle u) ∧
    ∀ handle, rowSource.openXml index t = (.ok (some handle), u) →
      (∃ cell, t.cell index = .ok cell ∧
        cell.document? = some (String.ofList handle.content) ∧ u = t.after cell 0) ∧
      TableHandle.ReleasedOnce rowSource.xml.serve .free TableHandle.documentReply handle u := by
  rw [rowSource_blob, rowSource_clob]
  refine ⟨fun handle h => ?_, fun handle h => ?_, fun handle h => ?_⟩
  · obtain ⟨cell, hcell, hopening, hu⟩ := fetch_opened h
    refine ⟨⟨cell, hcell, blobOf_content hopening, hu⟩, ?_, fun hlength offset count => ?_⟩
    · exact TableHandle.readsContent (fun pieces => congrArg _ (List.map_id pieces))
        (fun _ => rfl) (blobOf_fresh hopening)
    · rw [TableHandle.sliceInWords_eq hlength, TableHandle.slice_eq_unitsBetween]
  · have hclob : fetch clobOf index t = (.ok (some handle), u) := h.elim id id
    obtain ⟨cell, hcell, hopening, hu⟩ := fetch_opened hclob
    refine ⟨⟨cell, hcell, clobOf_content hopening, hu⟩, ?_⟩
    exact TableHandle.readsContent join_map_ofList (fun units => by cases units <;> simp)
      (clobOf_fresh hopening)
  · obtain ⟨cell, hcell, hopening, hu⟩ := fetch_opened h
    refine ⟨⟨cell, hcell, xmlOf_content hopening, hu⟩, ?_⟩
    exact TableHandle.document_serves.releasedOnce (xmlOf_fresh hopening)

/-- Handles that report lengths of their own, and not those of their contents, read the contents. -/
theorem opened_handle_reads_content_of_own_lengths :
    let t := (ofRows [] [[.blob [1, 2, 3] 9, .clob "né" 0, .xml "<é/>"]]).nextRow.2
    let bytes : TableHandle UInt8 := ⟨[1, 2, 3], 9, false⟩
    TableHandle.ReadsContent rowSource.blob id List.flatten List.isEmpty bytes t ∧
      bytes.sliceInWords 1 0xFFFFFFFFFFFFFFFF =
        TableHandle.unitsBetween 1 (1 + 0xFFFFFFFFFFFFFFFF) bytes.content ∧
      TableHandle.ReadsContent rowSource.clob String.ofList String.join String.isEmpty
        ⟨['n', 'é'], 0, false⟩ t ∧
      TableHandle.ReleasedOnce rowSource.xml.serve .free TableHandle.documentReply
        ⟨['<', 'é', '/', '>'], 5, false⟩ t := by
  intro t bytes
  obtain ⟨hblob, -, -⟩ := opened_handle_reads_content t t 0
  obtain ⟨-, hclob, -⟩ := opened_handle_reads_content t t 1
  obtain ⟨-, -, hxml⟩ := opened_handle_reads_content t t 2
  obtain ⟨-, hbytes, hwords⟩ := hblob bytes rfl
  exact ⟨hbytes, hwords (by decide) 1 0xFFFFFFFFFFFFFFFF,
    (hclob ⟨['n', 'é'], 0, false⟩ (Or.inl rfl)).2, (hxml ⟨['<', 'é', '/', '>'], 5, false⟩ rfl).2⟩

end ResultTable

end RowCast
