import OptimiqVoice.Lib.Dict
import OptimiqVoice.Lib.FilePath
import OptimiqVoice.Lib.Machine
import OptimiqVoice.Sipd.Contract

namespace OptimiqVoice.Mediad

open Lib FilePath
open Sipd (GoString Runtime)

inductive Reason
  | badRequest
  | notSupported
  | unknownSession
  | wrongInstance
  | capacity
  | shuttingDown
  | internal

inductive LoadError
  | noLibrary
  | unsupportedScheme
  | outsideLibrary
  | notFound
  | unsupportedFormat
  | malformed
  | other

/-- What the host answers when a file is read: it is missing, it cannot be read
(a directory cannot), or the decoder has its contents. -/
inductive Node
  | absent
  | unreadable
  | file (decoded : Except LoadError Unit)

def soundScheme : GoString := "sound:".toList

/-- The end of `Library.Resolve`, with the cleaned root: the path of a name, if it
is in the library. -/
def place (root name : GoString) : Except LoadError GoString :=
  let resolved := if isAbs name then clean name else join [root, name]
  if resolved ≠ root ∧ (root ++ ['/']).isPrefixOf resolved = false then .error .outsideLibrary
  else .ok resolved

def resolve (p : Runtime) (libraryRoot ref : GoString) : Except LoadError GoString :=
  if libraryRoot = [] then .error .noLibrary
  else
    let trimmed := p.trimSpace ref
    if soundScheme.isPrefixOf trimmed = false then .error .unsupportedScheme
    else
      let name := p.trimSpace (trimmed.drop soundScheme.length)
      if name = [] then .error .notFound
      else if ['.', '.'] ∈ split name then .error .outsideLibrary
      else place (clean libraryRoot) (if ext name = [] then name ++ ".wav".toList else name)

/-- `Library.Load`, with the files it read. -/
def load (p : Runtime) (libraryRoot : GoString) (disk : GoString → Node) (ref : GoString) :
    List GoString × Except LoadError Unit :=
  match resolve p libraryRoot ref with
  | .error e => ([], .error e)
  | .ok path =>
    match disk path with
    | .absent => ([], .error .notFound)
    | .unreadable => ([], .error .other)
    | .file decoded => ([path], decoded)

/-- The loop of `Library.LoadAll`: the first reference that fails ends it. -/
def loadEach (p : Runtime) (libraryRoot : GoString) (disk : GoString → Node) :
    List GoString → List GoString × Except LoadError Unit
  | [] => ([], .ok ())
  | ref :: refs =>
    match load p libraryRoot disk ref with
    | (reads, .error e) => (reads, .error e)
    | (reads, .ok _) =>
      let (more, result) := loadEach p libraryRoot disk refs
      (reads ++ more, result)

def loadAll (p : Runtime) (libraryRoot : GoString) (disk : GoString → Node) (refs : List GoString) :
    List GoString × Except LoadError Unit :=
  if refs = [] then ([], .error .notFound) else loadEach p libraryRoot disk refs

def playbackRefusalFor : LoadError → Reason
  | .noLibrary => .notSupported
  | .unsupportedScheme => .notSupported
  | .unsupportedFormat => .notSupported
  | .notFound => .badRequest
  | .outsideLibrary => .badRequest
  | .malformed => .badRequest
  | .other => .internal

def recordingExtension : GoString := ".wav".toList

def partialSuffix : GoString := ".partial".toList

def recordingObjectKey (orgId callId ref : GoString) : GoString :=
  orgId ++ '/' :: callId ++ '/' :: ref ++ recordingExtension

def isSafeRefToken (value : GoString) : Bool :=
  if value = [] ∨ value = ['.'] ∨ value = ['.', '.'] then false
  else value.all fun r => r == '-' || r == '_' || r == '.' || ('0' ≤ r && r ≤ '9') ||
    ('A' ≤ r && r ≤ 'Z') || ('a' ≤ r && r ≤ 'z')

inductive Direction
  | sendRecv
  | sendOnly
  | recvOnly
  | inactive

/-- The parts of the surface that are read from elsewhere: how a direction and an
offer are parsed (with whether an offer fails only for want of a common codec),
and the two directories, trimmed as they are when the server is built. -/
structure Server where
  runtime : Runtime
  parseDirection : GoString → Option Direction
  parseOffer : GoString → Except Bool Unit
  (libraryRoot recordingsDir : GoString)

/-- The call a session was allocated for. -/
structure Tenancy where
  (orgId callId : GoString)
deriving DecidableEq

/-- The file of a recording, under its own name once it is complete. -/
structure Writing where
  tenancy : Tenancy
  (recordingRef path : GoString)
deriving DecidableEq

def Writing.files (w : Writing) : List GoString := [w.path ++ partialSuffix, w.path]

structure Surface where
  sessions : Dict GoString Tenancy
  reads : List GoString
  writes : List Writing

structure AllocateRequest where
  (sessionId callId orgId sdpOffer direction : GoString)

structure StartPlaybackRequest where
  (sessionId playbackRef : GoString)
  media : List GoString

structure StartRecordingRequest where
  (sessionId recordingRef format : GoString)
  beep : Option Bool
  terminateOn : Option GoString

/-- How the start of a recording went: refused before there was a file, with the
file open, or with a file whose header could not be written and that was removed. -/
inductive Opening
  | refused (reason : Reason)
  | opened
  | spoiled

/-- `Allocate`: a session that exists is kept; the answer to a new id is given. -/
def Surface.allocate (s : Surface) (allocated : Except Reason Unit) (request : AllocateRequest) :
    Surface × Except Reason Unit :=
  match s.sessions.get? request.sessionId with
  | some _ => (s, .ok ())
  | none =>
    match allocated with
    | .error reason => (s, .error reason)
    | .ok () =>
      ({ s with sessions := s.sessions.set request.sessionId ⟨request.orgId, request.callId⟩ }, .ok ())

namespace Server

def handleAllocateSession (server : Server) (s : Surface) (allocated : Except Reason Unit)
    (request : AllocateRequest) : Surface × Except Reason Unit :=
  if request.sessionId = [] then (s, .error .badRequest)
  else if request.callId = [] then (s, .error .badRequest)
  else if request.orgId = [] then (s, .error .badRequest)
  else if request.sdpOffer = [] then (s, .error .badRequest)
  else
    match server.parseDirection request.direction with
    | none => (s, .error .badRequest)
    | some .sendOnly => (s, .error .notSupported)
    | some .recvOnly => (s, .error .notSupported)
    | some _ =>
      match server.parseOffer request.sdpOffer with
      | .error noCommonCodec => (s, .error (if noCommonCodec then .notSupported else .badRequest))
      | .ok () => s.allocate allocated request

/-- `HandleStartPlayback`; where a foreign session is, and how the playback started,
is given. -/
def handleStartPlayback (server : Server) (s : Surface) (disk : GoString → Node) (located : Reason)
    (started : Except Reason Unit) (request : StartPlaybackRequest) : Surface × Except Reason Unit :=
  if request.sessionId = [] then (s, .error .badRequest)
  else if request.playbackRef = [] then (s, .error .badRequest)
  else if request.media = [] then (s, .error .badRequest)
  else if (s.sessions.get? request.sessionId).isNone then (s, .error located)
  else if server.libraryRoot = [] then (s, .error .notSupported)
  else
    let (reads, result) := loadAll server.runtime server.libraryRoot disk request.media
    let s := { s with reads := s.reads ++ reads }
    match result with
    | .error e => (s, .error (playbackRefusalFor e))
    | .ok () => (s, started)

def handleStartRecording (server : Server) (s : Surface) (located : Reason) (opening : Opening)
    (request : StartRecordingRequest) : Surface × Except Reason Unit :=
  if request.sessionId = [] then (s, .error .badRequest)
  else if request.recordingRef = [] then (s, .error .badRequest)
  else if isSafeRefToken request.recordingRef = false then (s, .error .badRequest)
  else if request.format ≠ [] ∧ request.format ≠ "wav".toList then (s, .error .notSupported)
  else if request.beep = some true then (s, .error .notSupported)
  else if request.terminateOn.getD [] ≠ [] ∧ request.terminateOn.getD [] ≠ "none".toList then
    (s, .error .notSupported)
  else if server.recordingsDir = [] then (s, .error .notSupported)
  else
    match s.sessions.get? request.sessionId with
    | none => (s, .error located)
    | some tenancy =>
      if tenancy.orgId = [] ∨ tenancy.callId = [] then (s, .error .internal)
      else
        let objectKey := recordingObjectKey tenancy.orgId tenancy.callId request.recordingRef
        let path := join [server.recordingsDir, objectKey]
        let written := { s with writes := s.writes ++ [⟨tenancy, request.recordingRef, path⟩] }
        match opening with
        | .refused reason => (s, .error reason)
        | .opened => (written, .ok ())
        | .spoiled => (written, .error .internal)

end Server

namespace Surface

def new : Surface := ⟨.empty, [], []⟩

inductive Event
  | allocate (request : AllocateRequest) (allocated : Except Reason Unit)
  | startPlayback (request : StartPlaybackRequest) (disk : GoString → Node) (located : Reason)
      (started : Except Reason Unit)
  | startRecording (request : StartRecordingRequest) (located : Reason) (opening : Opening)
  | sessionEnded (sessionId : GoString)

def step (server : Server) (s : Surface) : Event → Option Surface
  | .allocate request allocated => some (server.handleAllocateSession s allocated request).1
  | .startPlayback request disk located started =>
    some (server.handleStartPlayback s disk located started request).1
  | .startRecording request located opening =>
    some (server.handleStartRecording s located opening request).1
  | .sessionEnded id => some { s with sessions := s.sessions.erase id }

end Surface

/-- A directory as it is configured: cleaned, and absolute. -/
structure IsRoot (root : GoString) : Prop where
  clean : FilePath.clean root = root
  isAbs : FilePath.isAbs root = true

section reading

variable {p : Runtime} {root path : GoString} {disk : GoString → Node}

variable (hroot : IsRoot root)

include hroot

theorem place_inside {name : GoString} (h : place root name = .ok path) :
    path = root ∨ Inside root path := by
  obtain ⟨rs, hrs, hr⟩ := exists_render hroot.isAbs
  rw [hroot.clean] at hr
  have hcleaned : ∃ es, (∀ e ∈ es, Plain e) ∧
      (if isAbs name then clean name else join [root, name]) = render es := by
    split_ifs with habs
    · exact exists_render habs
    · refine ⟨(split name).foldl (push true) rs, plain_foldl_push hrs ?_, by rw [hr, join_render hrs]⟩
      intro e he
      exact not_mem_of_mem_split he
  obtain ⟨es, hes, heq⟩ := hcleaned
  simp only [place, heq] at h
  split_ifs at h with hout
  cases h
  by_cases hsame : render es = root
  · exact .inl hsame
  · right
    have hbelow : root ++ ['/'] <+: render es := by simpa [hsame] using hout
    obtain ⟨q, hq⟩ := hbelow
    refine inside_of_append (q := q) hroot.clean hroot.isAbs (clean_render hes) rfl ?_
    rw [← hq, List.append_assoc, List.singleton_append]

theorem resolve_inside {ref : GoString} (h : resolve p root ref = .ok path) :
    path = root ∨ Inside root path := by
  simp only [resolve, hroot.clean] at h
  split_ifs at h <;> exact place_inside hroot h

variable (hdir : ∀ decoded, disk root ≠ .file decoded)

include hdir

theorem load_inside (ref : GoString)
    (h : path ∈ (load p root disk ref).1) : Inside root path := by
  rw [load] at h
  split at h
  · simp at h
  · rename_i path' hresolve
    split at h
    · simp at h
    · simp at h
    · rename_i decoded hfile
      obtain rfl : path = path' := by simpa using h
      obtain rfl | hin := resolve_inside hroot hresolve
      · exact absurd hfile (hdir decoded)
      · exact hin

theorem loadEach_inside
    (refs : List GoString) (h : path ∈ (loadEach p root disk refs).1) : Inside root path := by
  induction refs with
  | nil => simp [loadEach] at h
  | cons ref refs ih =>
    have hfirst : path ∈ (load p root disk ref).1 → Inside root path := load_inside hroot hdir ref
    rw [loadEach] at h
    split at h
    · rename_i reads e hload
      rw [hload] at hfirst
      exact hfirst h
    · rename_i reads _ hload
      rw [hload] at hfirst
      obtain h | h := List.mem_append.mp h
      · exact hfirst h
      · exact ih h

theorem loadAll_inside
    (refs : List GoString) (h : path ∈ (loadAll p root disk refs).1) : Inside root path := by
  rw [loadAll] at h
  split_ifs at h
  · simp at h
  · exact loadEach_inside hroot hdir refs h

end reading

section writing

variable {root path : GoString} {tenancy : Tenancy} {ref : GoString}

theorem plain_file (h : isSafeRefToken ref) (ending : GoString) (hlong : 2 < ending.length)
    (hwhole : '/' ∉ ending) : Plain (ref ++ ending) := by
  have hlength : ∀ short : Element, short.length ≤ 2 → ref ++ ending ≠ short := by
    rintro short hshort rfl
    rw [List.length_append] at hshort
    omega
  refine ⟨hlength [] (by simp), ?_, hlength ['.'] (by simp), hlength ['.', '.'] (by simp)⟩
  intro hmem
  obtain hmem | hmem := List.mem_append.mp hmem
  · rw [isSafeRefToken] at h
    split_ifs at h
    exact absurd (List.all_eq_true.mp h '/' hmem) (by decide)
  · exact hwhole hmem

theorem recording_path (hroot : IsRoot root) (horg : Plain tenancy.orgId) (hcall : Plain tenancy.callId)
    (href : isSafeRefToken ref) :
    join [root, recordingObjectKey tenancy.orgId tenancy.callId ref] =
      render (parts root ++ [tenancy.orgId, tenancy.callId] ++ [ref ++ recordingExtension]) := by
  obtain ⟨rs, hrs, hr⟩ := exists_render hroot.isAbs
  rw [hroot.clean] at hr
  have hfile : Plain (ref ++ recordingExtension) := plain_file href _ (by decide) (by decide)
  have hsplit : split (recordingObjectKey tenancy.orgId tenancy.callId ref) =
      [tenancy.orgId, tenancy.callId] ++ [ref ++ recordingExtension] := by
    rw [recordingObjectKey, List.append_assoc, List.append_assoc, List.cons_append, List.cons_append,
      split_append, split_append, FilePath.split, FilePath.split, FilePath.split, List.splitOn_eq_singleton horg.whole,
      List.splitOn_eq_singleton hcall.whole, List.splitOn_eq_singleton hfile.whole]
    rfl
  rw [hr, join_render hrs, parts_render hrs, hsplit, foldl_push_plain, List.append_assoc]
  simpa using ⟨horg, hcall, hfile⟩

end writing

namespace Surface

/-- Prompts are read from the library, recordings written under their own
organization, and those of different calls or references to different files. -/
structure Confined (server : Server) (s : Surface) : Prop where
  reads : ∀ path ∈ s.reads, Inside server.libraryRoot path
  writes : ∀ w ∈ s.writes, ∀ path ∈ w.files,
    Inside (server.recordingsDir ++ '/' :: w.tenancy.orgId) path
  apart : ∀ w ∈ s.writes, ∀ w' ∈ s.writes,
    (w.tenancy, w.recordingRef) ≠ (w'.tenancy, w'.recordingRef) → ∀ path ∈ w.files, path ∉ w'.files

/-- What is asked of a request: the organization and the call of a session are
named by one path element each, and the library root is no regular file. -/
def Tame (server : Server) (_s : Surface) : Event → Prop
  | .allocate request _ => ∀ name ∈ [request.orgId, request.callId],
    '/' ∉ name ∧ name ≠ ['.'] ∧ name ≠ ['.', '.']
  | .startPlayback _ disk _ _ => ∀ decoded, disk server.libraryRoot ≠ .file decoded
  | _ => True

/-- Every session has plain names, and every recording is where its session's
names and its own put it. -/
structure Filed (server : Server) (s : Surface) : Prop where
  sessions : ∀ id tenancy, s.sessions.get? id = some tenancy → Plain tenancy.orgId ∧ Plain tenancy.callId
  reads : ∀ path ∈ s.reads, Inside server.libraryRoot path
  writes : ∀ w ∈ s.writes, Plain w.tenancy.orgId ∧ Plain w.tenancy.callId ∧ isSafeRefToken w.recordingRef ∧
    w.path = join [server.recordingsDir,
      recordingObjectKey w.tenancy.orgId w.tenancy.callId w.recordingRef]

section steps

variable {server : Server} {s : Surface}

variable (h : Filed server s)

include h

theorem Filed.allocate (allocated : Except Reason Unit) {request : AllocateRequest}
    (horg : Plain request.orgId) (hcall : Plain request.callId) :
    Filed server (s.allocate allocated request).1 := by
  rw [Surface.allocate.eq_def]
  split
  · exact h
  · split
    · exact h
    · refine ⟨?_, h.reads, h.writes⟩
      intro id tenancy hget
      rw [Dict.get?_set] at hget
      split_ifs at hget
      · cases hget
        exact ⟨horg, hcall⟩
      · exact h.sessions id tenancy hget

theorem Filed.allocateSession (allocated : Except Reason Unit)
    {request : AllocateRequest}
    (htame : ∀ name ∈ [request.orgId, request.callId], '/' ∉ name ∧ name ≠ ['.'] ∧ name ≠ ['.', '.']) :
    Filed server (server.handleAllocateSession s allocated request).1 := by
  have hplain : ∀ name ∈ [request.orgId, request.callId], name ≠ [] → Plain name := by
    intro name hname hne
    exact ⟨hne, (htame name hname).1, (htame name hname).2.1, (htame name hname).2.2⟩
  rw [Server.handleAllocateSession]
  split_ifs with hid hcall horg hoffer
  · exact h
  · exact h
  · exact h
  · exact h
  · split
    · exact h
    · exact h
    · exact h
    · split
      · exact h
      · exact h.allocate allocated (hplain _ (by simp) horg) (hplain _ (by simp) hcall)

theorem Filed.startPlayback (hroot : IsRoot server.libraryRoot)
    {disk : GoString → Node} (hdir : ∀ decoded, disk server.libraryRoot ≠ .file decoded) (located : Reason)
    (started : Except Reason Unit) (request : StartPlaybackRequest) :
    Filed server (server.handleStartPlayback s disk located started request).1 := by
  have hloaded : Filed server
      { s with reads := s.reads ++ (loadAll server.runtime server.libraryRoot disk request.media).1 } := by
    refine ⟨h.sessions, ?_, h.writes⟩
    intro path hpath
    obtain hpath | hpath := List.mem_append.mp hpath
    · exact h.reads path hpath
    · exact loadAll_inside hroot hdir request.media hpath
  simp only [Server.handleStartPlayback]
  split_ifs
  · exact h
  · exact h
  · exact h
  · exact h
  · exact h
  · split <;> exact hloaded

theorem Filed.startRecording (located : Reason) (opening : Opening)
    (request : StartRecordingRequest) :
    Filed server (server.handleStartRecording s located opening request).1 := by
  rw [Server.handleStartRecording]
  split_ifs with hid href hsafe hformat hbeep hdigit hdir
  · exact h
  · exact h
  · exact h
  · exact h
  · exact h
  · exact h
  · exact h
  · split
    · exact h
    · rename_i tenancy hget
      obtain ⟨horg, hcall⟩ := h.sessions _ tenancy hget
      have hwritten : Filed server { s with writes := s.writes ++ [⟨tenancy, request.recordingRef,
          join [server.recordingsDir,
            recordingObjectKey tenancy.orgId tenancy.callId request.recordingRef]⟩] } := by
        refine ⟨h.sessions, h.reads, ?_⟩
        intro w hw
        obtain hw | hw := List.mem_append.mp hw
        · exact h.writes w hw
        · obtain rfl := List.mem_singleton.mp hw
          exact ⟨horg, hcall, by simpa using hsafe, rfl⟩
      split_ifs
      · exact h
      · cases opening with
        | refused reason => exact h
        | opened | spoiled => exact hwritten

theorem Filed.step (hroot : IsRoot server.libraryRoot) {e : Event} {s' : Surface}
    (htame : s.Tame server e) (hstep : s.step server e = some s') : Filed server s' := by
  cases e with
  | allocate request allocated =>
    cases hstep
    exact h.allocateSession allocated htame
  | startPlayback request disk located started =>
    cases hstep
    exact h.startPlayback hroot htame located started request
  | startRecording request located opening =>
    cases hstep
    exact h.startRecording located opening request
  | sessionEnded id =>
    cases hstep
    refine ⟨?_, h.reads, h.writes⟩
    intro id' tenancy hget
    rw [Dict.get?_erase] at hget
    split_ifs at hget
    exact h.sessions id' tenancy hget

end steps

section confined

variable {server : Server} {s : Surface}

variable {w : Writing}

theorem Filed.files (h : Filed server s) (hroot : IsRoot server.recordingsDir)
    (hw : w ∈ s.writes) :
    w.files = [recordingExtension ++ partialSuffix, recordingExtension].map fun ending =>
      render (parts server.recordingsDir ++ [w.tenancy.orgId, w.tenancy.callId] ++
        [w.recordingRef ++ ending]) := by
  obtain ⟨horg, hcall, href, hpath⟩ := h.writes w hw
  have hrender := recording_path hroot horg hcall href
  rw [Writing.files, hpath, hrender, render_append, List.append_assoc w.recordingRef]
  rfl

theorem Filed.plain (h : Filed server s) (hroot : IsRoot server.recordingsDir)
    (hw : w ∈ s.writes) {ending : GoString}
    (hending : ending ∈ [recordingExtension ++ partialSuffix, recordingExtension]) :
    ∀ e ∈ parts server.recordingsDir ++ [w.tenancy.orgId, w.tenancy.callId] ++ [w.recordingRef ++ ending],
      Plain e := by
  obtain ⟨horg, hcall, href, -⟩ := h.writes w hw
  obtain ⟨rs, hrs, hr⟩ := exists_render hroot.isAbs
  rw [hroot.clean] at hr
  have hfile : Plain (w.recordingRef ++ ending) := by
    obtain rfl | rfl : ending = recordingExtension ++ partialSuffix ∨ ending = recordingExtension := by
      simpa using hending
    · exact plain_file href _ (by decide) (by decide)
    · exact plain_file href _ (by decide) (by decide)
  rw [hr, parts_render hrs]
  intro e he
  simp only [List.mem_append, List.mem_cons, List.not_mem_nil, or_false] at he
  obtain (he | rfl | rfl) | rfl := he
  · exact hrs e he
  · exact horg
  · exact hcall
  · exact hfile

theorem Filed.inside (h : Filed server s) (hroot : IsRoot server.recordingsDir)
    (hw : w ∈ s.writes) {path : GoString} (hpath : path ∈ w.files) :
    Inside (server.recordingsDir ++ '/' :: w.tenancy.orgId) path := by
  obtain ⟨horg, -⟩ := h.writes w hw
  have hdir : parts (server.recordingsDir ++ '/' :: w.tenancy.orgId) =
      parts server.recordingsDir ++ [w.tenancy.orgId] := by
    have hsingle : parts w.tenancy.orgId = [w.tenancy.orgId] := by
      rw [parts, FilePath.split, List.splitOn_eq_singleton horg.whole]
      simp [horg.nonempty]
    rw [parts_append, hsingle]
  rw [h.files hroot hw] at hpath
  obtain ⟨ending, hending, rfl⟩ := List.mem_map.mp hpath
  have hplain := h.plain hroot hw hending
  refine ⟨clean_render hplain, rfl, [w.tenancy.callId, w.recordingRef ++ ending], by simp, ?_⟩
  rw [parts_render hplain, hdir]
  simp

theorem ending_ne_nil {ending : GoString}
    (h : ending ∈ [recordingExtension ++ partialSuffix, recordingExtension]) : ending ≠ [] := by
  rintro rfl
  exact absurd h (by decide)

theorem ending_unique : ∀ ending ∈ [recordingExtension ++ partialSuffix, recordingExtension],
    ∀ ending' ∈ [recordingExtension ++ partialSuffix, recordingExtension],
      ending.getLast? = ending'.getLast? → ending = ending' := by
  decide

theorem Filed.unique (h : Filed server s) (hroot : IsRoot server.recordingsDir) {w' : Writing}
    (hw : w ∈ s.writes) (hw' : w' ∈ s.writes) {path : GoString} (hpath : path ∈ w.files)
    (hpath' : path ∈ w'.files) : (w.tenancy, w.recordingRef) = (w'.tenancy, w'.recordingRef) := by
  rw [h.files hroot hw] at hpath
  rw [h.files hroot hw'] at hpath'
  obtain ⟨ending, hending, rfl⟩ := List.mem_map.mp hpath
  obtain ⟨ending', hending', heq⟩ := List.mem_map.mp hpath'
  have hparts := congrArg parts heq
  rw [parts_render (h.plain hroot hw' hending'), parts_render (h.plain hroot hw hending),
    List.append_assoc, List.append_assoc] at hparts
  have hnames := List.append_cancel_left hparts
  simp only [List.cons_append, List.nil_append, List.cons.injEq, and_true] at hnames
  obtain ⟨horg, hcall, hfile⟩ := hnames
  have hsame : ending' = ending := by
    -- the last letters differ otherwise
    have hlast := congrArg List.getLast? hfile
    rw [List.getLast?_append_of_ne_nil _ (ending_ne_nil hending'),
      List.getLast?_append_of_ne_nil _ (ending_ne_nil hending)] at hlast
    exact ending_unique _ hending' _ hending hlast
  rw [hsame] at hfile
  have href := List.append_cancel_right hfile
  obtain ⟨⟨orgId, callId⟩, ref, p⟩ := w
  obtain ⟨⟨orgId', callId'⟩, ref', p'⟩ := w'
  cases horg
  cases hcall
  cases href
  rfl

end confined

/-- In every sequence of requests that are tame, media files stay in their place. -/
theorem confined_of_run (server : Server) (hlibrary : IsRoot server.libraryRoot)
    (hrecordings : IsRoot server.recordingsDir) (es : List Event) (s : Surface)
    (htame : Meets (step server) (Tame server) new es) (hrun : run (step server) new es = some s) :
    Confined server s := by
  have hinit : Filed server new := by
    refine ⟨?_, by simp [new], by simp [new]⟩
    intro id tenancy hget
    cases hget
  have h : Filed server s :=
    run_keeps_of (Filed server) (fun _ _ _ hC hI hs => hI.step hlibrary hC hs) htame hinit hrun
  refine ⟨h.reads, fun w hw path hpath => h.inside hrecordings hw hpath, ?_⟩
  intro w hw w' hw' hne path hpath hpath'
  exact hne (h.unique hrecordings hw hw' hpath hpath')

section samples

def sampleServer : Server :=
  ⟨Sipd.sampleRuntime, fun _ => some .sendRecv, fun _ => .ok (), "/snd".toList, "/rec".toList⟩

def sampleRequests (callId : GoString) : List Event :=
  [.allocate ⟨['s'], callId, ['a'], ['v'], []⟩ (.ok ()),
    .startPlayback ⟨['s'], ['p'], ["sound:hi".toList]⟩
      (fun path => if path = "/snd/hi.wav".toList then .file (.ok ()) else .absent) .unknownSession (.ok ()),
    .startRecording ⟨['s'], ['x'], [], none, none⟩ .unknownSession .opened]

def tame (server : Server) : Event → Bool
  | .allocate request _ => [request.orgId, request.callId].all fun name =>
    !name.contains '/' && name != ['.'] && name != ['.', '.']
  | .startPlayback _ disk _ _ =>
    match disk server.libraryRoot with
    | .file _ => false
    | _ => true
  | _ => true

theorem tame_of_check {server : Server} {s : Surface} {e : Event} (h : tame server e) :
    s.Tame server e := by
  cases e with
  | allocate request allocated => simpa [tame, Tame, and_assoc] using h
  | startPlayback request disk located started =>
    intro decoded hfile
    simp [tame, hfile] at h
  | _ => trivial

theorem confined_sampleRequests :
    ∃ s, run (step sampleServer) new (sampleRequests ['c']) = some s ∧
      s.reads = ["/snd/hi.wav".toList] ∧ s.writes = [⟨⟨['a'], ['c']⟩, ['x'], "/rec/a/c/x.wav".toList⟩] ∧
      Confined sampleServer s := by
  have hcheck : (run (step sampleServer) new (sampleRequests ['c'])).any (fun s =>
      s.reads == ["/snd/hi.wav".toList] &&
        s.writes == [⟨⟨['a'], ['c']⟩, ['x'], "/rec/a/c/x.wav".toList⟩]) = true := by decide
  have htame : checks (step sampleServer) (fun _ => tame sampleServer) new (sampleRequests ['c']) := by
    decide
  obtain ⟨s, hrun, hs⟩ := (Option.any_eq_true _ _).mp hcheck
  simp only [Bool.and_eq_true, beq_iff_eq] at hs
  exact ⟨s, hrun, hs.1, hs.2, confined_of_run sampleServer ⟨by decide, by decide⟩
    ⟨by decide, by decide⟩ _ s (meets_of_checks (fun _ _ => tame_of_check) htame) hrun⟩

/-- A call id that leads out of the organization's directory. -/
theorem recording_escapes :
    ∃ s, run (step sampleServer) new (sampleRequests "../b".toList) = some s ∧
      ¬Confined sampleServer s := by
  have hcheck : (run (step sampleServer) new (sampleRequests "../b".toList)).any (fun s =>
      s.writes == [⟨⟨['a'], "../b".toList⟩, ['x'], "/rec/b/x.wav".toList⟩]) = true := by decide
  obtain ⟨s, hrun, hs⟩ := (Option.any_eq_true _ _).mp hcheck
  refine ⟨s, hrun, fun hconfined => ?_⟩
  have hin := hconfined.writes _ (by rw [beq_iff_eq.mp hs]; exact List.mem_singleton_self _)
    "/rec/b/x.wav".toList (by decide)
  obtain ⟨rest, -, hparts⟩ := hin.below
  have hfront : parts (sampleServer.recordingsDir ++ '/' :: ['a']) <+: parts "/rec/b/x.wav".toList :=
    ⟨rest, hparts.symm⟩
  exact absurd hfront (by decide)

end samples

end Surface

end OptimiqVoice.Mediad
