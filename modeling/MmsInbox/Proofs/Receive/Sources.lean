import MmsInbox.Proofs.Receive.Course

namespace MmsInbox.Receive

/-!
# What everyone has to say

The file system, the codec and the application may be thought of as having their answers ready, whether or
not a run asks for them (`Sources`). Since a run asks everyone once at most, whatever it is told in its
course is what some such sources have to say (`Runs.exists_agree`).
-/

open Program

/-- What the file system, the codec and the application have to say, whether or not they are asked. -/
structure Sources where
  read : String → Except File.Error Bytes
  parse : Bytes → Except CodecError Pdu
  blocks : String → Bool
  credentials : Subscription → Option RelayCredentials
  lineNumber : Subscription → Option String

/-- Whoever is asked says what they have to say. -/
def Sources.Agree (sources : Sources) : Event → Prop
  | .acted (.readFile path) content => content = sources.read path
  | .answered (.parse payload) parsed => parsed = sources.parse payload
  | .answered (.isAddressBlocked address) blocked => blocked = sources.blocks address
  | .answered (.relayCredentials subscription) found => found = sources.credentials subscription
  | .answered (.lineNumber subscription) known => known = sources.lineNumber subscription
  | _ => True

section Consistency

variable
  {location : String}
  {download : Download}
  {subscription : Subscription}
  {outcome : Outcome}
  {history : History}
  (sources : Sources)

theorem agree_of_justNotes (justNotes : history.JustNotes) :
    ∀ event ∈ history, sources.Agree event := by
  intro event member
  have noted := justNotes event member
  cases event with
  | answered call answer => cases noted
  | panicked call panic => cases noted
  | acted action answer =>
      cases action with
      | note notice => trivial
      | _ => cases noted

theorem TakesIn.agree
    {path : String}
    {content : Except File.Error Bytes}
    (takes : TakesIn path content history)
    (read : sources.read path = content) :
    ∀ event ∈ history, sources.Agree event := by
  obtain ⟨removal, notes, justNotes, rfl⟩ := takes
  simp only [List.forall_mem_cons]
  exact ⟨read.symm, trivial, agree_of_justNotes sources justNotes⟩

theorem Marks.agree (marks : Marks location history) : ∀ event ∈ history, sources.Agree event := by
  obtain ⟨result, notes, justNotes, rfl⟩ := marks
  simp only [List.forall_mem_cons]
  exact ⟨trivial, agree_of_justNotes sources justNotes⟩

theorem Deletes.agree
    {reason : String}
    (deletes : Deletes location reason history) :
    ∀ event ∈ history, sources.Agree event := by
  cases deletes <;> simp [Sources.Agree]

theorem Cleans.agree
    {status : Option FetchStatus}
    (cleans : Cleans status location history) :
    ∀ event ∈ history, sources.Agree event := by
  cases cleans with
  | spared current => simp
  | deleted reports stale deletes => exact deletes.agree sources

theorem Reports.agree (reports : Reports location outcome history) :
    ∀ event ∈ history, sources.Agree event := by
  cases reports <;> simp [Sources.Agree]

omit sources

/-- The blocklist is asked once at most. -/
theorem Screens.exists_blocks
    {sender : Option String}
    {verdict : Verdict}
    (screens : Screens sender location verdict history) :
    ∃ blocks, ∀ sources : Sources, sources.blocks = blocks → ∀ event ∈ history, sources.Agree event := by
  cases screens with
  | anonymous unknown => exact ⟨fun _ => false, by simp⟩
  | admitted known => exact ⟨fun _ => false, by simp +contextual [Sources.Agree]⟩
  | blocked known deletes =>
      refine ⟨fun _ => true, fun sources same => ?_⟩
      simp only [List.forall_mem_cons]
      exact ⟨(congrFun same _).symm, trivial, deletes.agree sources⟩

/-- The application is asked for carrier settings and for the device's own number once at most. -/
theorem Acknowledges.exists_lookups
    {uri : Option String}
    {retrieval : Retrieval}
    (acknowledges : Acknowledges location subscription uri retrieval history) :
    ∃ credentials lineNumber, ∀ sources : Sources,
      sources.credentials = credentials → sources.lineNumber = lineNumber →
        ∀ event ∈ history, sources.Agree event := by
  cases acknowledges with
  | unconfigured lineNumber justNotes =>
      refine ⟨fun _ => none, fun _ => lineNumber, fun sources found known => ?_⟩
      simp only [List.forall_mem_cons]
      exact ⟨(congrFun found _).symm, (congrFun known _).symm, agree_of_justNotes sources justNotes⟩
  | unnamed credentials lineNumber nameless justNotes =>
      refine ⟨fun _ => some credentials, fun _ => lineNumber, fun sources found known => ?_⟩
      simp only [List.forall_mem_cons]
      exact ⟨(congrFun found _).symm, (congrFun known _).symm, agree_of_justNotes sources justNotes⟩
  | unavailable credentials error lineNumber name justNotes justMore =>
      refine ⟨fun _ => some credentials, fun _ => lineNumber, fun sources found known => ?_⟩
      simp only [List.forall_mem_cons, List.forall_mem_append]
      exact ⟨(congrFun found _).symm, trivial, agree_of_justNotes sources justNotes,
        (congrFun known _).symm, agree_of_justNotes sources justMore⟩
  | submitted credentials notification lineNumber name =>
      refine ⟨fun _ => some credentials, fun _ => lineNumber, fun sources found known => ?_⟩
      simp only [List.forall_mem_cons]
      exact ⟨(congrFun found _).symm, trivial, (congrFun known _).symm, trivial, by simp⟩

/-- There are no files, the codec reads nothing, and the application blocks nobody and knows nothing. -/
def Sources.none : Sources where
  read _ := .error .absent
  parse _ := .error (.other "")
  blocks _ := false
  credentials _ := Option.none
  lineNumber _ := Option.none

theorem exists_agree_of_allowed
    {payload : Bytes}
    {parsed : Except CodecError Pdu}
    {retrieval : Retrieval}
    {record : MessageRecord}
    {stored : Except StoreError MessageId}
    {sender : Option String}
    {taking screening acknowledging : History}
    (more : History)
    (takes : TakesIn download.path (.ok payload) taking)
    (screens : Screens sender download.location .allowed screening)
    (acknowledges :
      Acknowledges download.location subscription download.notificationUri retrieval acknowledging)
    (moreAgree : ∀ sources : Sources, ∀ event ∈ more, sources.Agree event) :
    ∃ sources : Sources,
      ∀ event ∈
        taking ++ .answered (.parse payload) parsed ::
          (screening ++ .answered (.persist record) stored :: (acknowledging ++ more)),
        sources.Agree event := by
  obtain ⟨blocks, screened⟩ := screens.exists_blocks
  obtain ⟨credentials, lineNumber, acknowledged⟩ := acknowledges.exists_lookups
  refine ⟨⟨fun _ => .ok payload, fun _ => parsed, blocks, credentials, lineNumber⟩, ?_⟩
  simp only [List.forall_mem_append, List.forall_mem_cons]
  exact ⟨takes.agree _ rfl, rfl, screened _ rfl, trivial, acknowledged _ rfl rfl, moreAgree _⟩

/-- Since a run asks everyone once at most, there is something that everyone has to say. -/
theorem Receives.exists_agree (receives : Receives download subscription outcome history) :
    ∃ sources : Sources, ∀ event ∈ history, sources.Agree event := by
  cases receives with
  | @unread cause _ takes =>
      exact ⟨{ Sources.none with read := fun _ => .error cause }, takes.agree _ rfl⟩
  | empty takes marks =>
      refine ⟨{ Sources.none with read := fun _ => .ok [] }, ?_⟩
      simp only [List.forall_mem_append]
      exact ⟨takes.agree _ rfl, marks.agree _⟩
  | @malformed payload error _ takes nonempty =>
      refine ⟨{ Sources.none with read := fun _ => .ok payload, parse := fun _ => .error error }, ?_⟩
      simp only [List.forall_mem_append, List.forall_mem_cons]
      exact ⟨takes.agree _ rfl, rfl, by simp⟩
  | @unexpected payload pdu _ takes nonempty other =>
      refine ⟨{ Sources.none with read := fun _ => .ok payload, parse := fun _ => .ok pdu }, ?_⟩
      simp only [List.forall_mem_append, List.forall_mem_cons]
      exact ⟨takes.agree _ rfl, rfl, by simp⟩
  | @blocked payload retrieval _ _ takes nonempty screens =>
      obtain ⟨blocks, screened⟩ := screens.exists_blocks
      refine ⟨
        { Sources.none with
          read := fun _ => .ok payload
          parse := fun _ => .ok (.retrieval retrieval)
          blocks := blocks }, ?_⟩
      simp only [List.forall_mem_append, List.forall_mem_cons]
      exact ⟨takes.agree _ rfl, rfl, screened _ rfl⟩
  | unstored takes nonempty screens acknowledges =>
      simpa only [List.append_nil] using
        exists_agree_of_allowed [] takes screens acknowledges (by simp)
  | stored takes nonempty screens acknowledges =>
      exact exists_agree_of_allowed _ takes screens acknowledges (by simp [Sources.Agree])

theorem Runs.exists_agree (runs : Runs download subscription outcome history) :
    ∃ sources : Sources, ∀ event ∈ history, sources.Agree event := by
  obtain ⟨began, receives, cleans, reports⟩ := runs
  obtain ⟨sources, agree⟩ := receives.exists_agree
  refine ⟨sources, ?_⟩
  simp only [List.forall_mem_append, List.forall_mem_cons]
  exact ⟨agree, cleans.agree _, trivial, reports.agree _⟩

end Consistency

end MmsInbox.Receive
