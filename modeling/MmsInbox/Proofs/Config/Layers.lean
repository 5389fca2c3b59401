import MmsInbox.Config.Layer

namespace MmsInbox

/-!
# What is read from a layer

A value that gives the settings of a layer is read as the standard settings with the layer over them
(`Config.read_of_gives`). That holds for any notation. It needs that a field that is left out of a record has
the value that it has when the whole record is left out.
-/

/-- A 64 bit number without a sign fits its kind. -/
theorem IntegerKind.holds_word64 (number : UInt64) :
    IntegerKind.holds ⟨false, 64⟩ number.toNat = true := by
  have within := number.toNat_lt
  simp only [holds, span, Nat.one_shiftLeft, Bool.false_eq_true, if_false, Bool.and_eq_true,
    decide_eq_true_eq, Int.ofNat_eq_natCast]
  omega

/-- A 32 bit number with a sign fits its kind. -/
theorem IntegerKind.holds_signed32 (number : Int32) :
    IntegerKind.holds ⟨true, 32⟩ number.toInt = true := by
  have least := number.le_toInt
  have greatest := number.toInt_lt
  simp only [holds, span, Nat.one_shiftLeft, if_true, Bool.and_eq_true, decide_eq_true_eq,
    Int.ofNat_eq_natCast]
  omega

/-- An empty record for one that is left out changes nothing. -/
theorem AckLayer.filled_onto
    (layer : AckLayer)
    (below : AckSettings) :
    layer.filled.onto below = layer.onto below := by
  obtain ⟨toContentLocation, preferDirectPath, http⟩ := layer
  cases http <;> rfl

/-- Empty records for those that are left out change nothing. -/
theorem ConfigLayer.filled_onto
    (layer : ConfigLayer)
    (below : Config) :
    layer.filled.onto below = layer.onto below := by
  obtain ⟨defaultSubscription, maxConcurrentRuns, acknowledgment, audit⟩ := layer
  have filledAck :
      (acknowledgment.getD .empty).filled.onto below.acknowledgment =
        (acknowledgment.map (·.onto below.acknowledgment)).getD below.acknowledgment := by
    rw [AckLayer.filled_onto]
    cases acknowledgment <;> rfl
  have filledAudit :
      (audit.getD .empty).onto below.audit =
        (audit.map (·.onto below.audit)).getD below.audit := by
    cases audit <;> rfl
  simp only [filled, onto, Option.map_some, Option.getD_some, filledAck, filledAudit]

variable {V α β : Type} {dialect : Dialect V} {value : V}

namespace GivesField

variable
  {Gives : V → α → Prop}
  {fields : List (String × V)}
  {name : String}

/-- A field that is there, and is the only one of its name, is all that is found under the name. -/
theorem filter_eq
    (there : (name, value) ∈ fields)
    (once : (fields.map Prod.fst).count name = 1) :
    fields.filter (·.1 == name) = [(name, value)] := by
  have one : (fields.filter (·.1 == name)).length = 1 := by
    rw [← List.countP_eq_length_filter, ← once, List.count_eq_countP, List.countP_map]
    rfl
  obtain ⟨field, only⟩ := List.length_eq_one_iff.mp one
  have found : (name, value) ∈ fields.filter (·.1 == name) :=
    List.mem_filter.mpr ⟨there, beq_self_eq_true name⟩
  rw [only, List.mem_singleton] at found
  rw [only, found]

/-- A field is read as the setting that it gives, and as its standard value if it is left out. -/
theorem fieldOr_eq
    {setting : Option α}
    (gives : GivesField Gives fields name setting)
    {read : V → Option β}
    {result : α → β}
    (reads : ∀ value setting, Gives value setting → read value = some (result setting))
    (standard : β) :
    fieldOr fields name standard read = some ((setting.map result).getD standard) := by
  cases gives with
  | leftOut absent =>
      have nothing : fields.filter (·.1 == name) = [] := by
        refine List.filter_eq_nil_iff.mpr fun field there named => absent ?_
        exact eq_of_beq named ▸ List.mem_map_of_mem there
      rw [fieldOr, nothing]
      rfl
  | given there once gives =>
      rw [fieldOr, filter_eq there once]
      exact reads _ _ gives

/-- The same, for a setting that is read as it is given. -/
theorem fieldOr_eq_getD
    {setting : Option α}
    (gives : GivesField Gives fields name setting)
    {read : V → Option α}
    (reads : ∀ value setting, Gives value setting → read value = some setting)
    (standard : α) :
    fieldOr fields name standard read = some (setting.getD standard) := by
  have readsTo (value : V) (setting : α) (given : Gives value setting) :
      read value = some (id setting) :=
    reads value setting given
  rw [gives.fieldOr_eq readsTo, Option.map_id, id]

end GivesField

namespace Dialect

/-- A whole number that fits its kind is read. -/
theorem fitting?_eq_some
    {kind : IntegerKind}
    {number : Int}
    (recognised : dialect.integer? kind value = some number)
    (fits : kind.holds number = true) :
    dialect.fitting? kind value = some number := by
  rw [fitting?, recognised, Option.filter_some_pos fits]

theorem GivesWord64.read
    {number : UInt64}
    (gives : dialect.GivesWord64 value number) :
    dialect.word64 value = some number := by
  rw [word64, fitting?_eq_some gives (IntegerKind.holds_word64 number), Option.map_some,
    Int.toNat_natCast, UInt64.ofNat_toNat]

theorem GivesSubscription.read
    {subscription : Subscription}
    (gives : dialect.GivesSubscription value subscription) :
    Subscription.read dialect value = some subscription := by
  rw [Subscription.read, fitting?_eq_some gives (IntegerKind.holds_signed32 _),
    Option.map_some, Int32.ofInt_toInt]

theorem GivesOptional.read
    {Gives : V → α → Prop}
    {setting : Option α}
    (gives : dialect.GivesOptional Gives value setting)
    {read : V → Option α}
    (reads : ∀ value setting, Gives value setting → read value = some setting) :
    dialect.optional read value = some setting := by
  cases gives with
  | absent nothing => rw [optional, nothing]
  | present there gives => simp only [optional, there, reads _ _ gives, Option.map_some]

end Dialect

theorem HttpSettings.read_of_gives
    {layer : HttpLayer}
    (gives : dialect.GivesHttp value layer) :
    HttpSettings.read dialect value = some (layer.onto .standard) := by
  obtain ⟨named, connectTimeout, requestTimeout, userAgent⟩ := gives
  simp only [HttpSettings.read, named,
    connectTimeout.fieldOr_eq_getD fun _ _ => Dialect.GivesWord64.read,
    requestTimeout.fieldOr_eq_getD fun _ _ => Dialect.GivesWord64.read,
    userAgent.fieldOr_eq_getD fun _ _ => id, Option.bind_eq_bind, Option.bind_some]
  rfl

theorem AckSettings.read_of_gives
    {layer : AckLayer}
    (gives : dialect.GivesAck value layer) :
    AckSettings.read dialect value = some (layer.onto .standard) := by
  obtain ⟨named, toContentLocation, preferDirectPath, http⟩ := gives
  simp only [AckSettings.read, named, toContentLocation.fieldOr_eq_getD fun _ _ => id,
    preferDirectPath.fieldOr_eq_getD fun _ _ => id,
    http.fieldOr_eq fun _ _ => HttpSettings.read_of_gives, Option.bind_eq_bind,
    Option.bind_some]
  rfl

theorem AuditSettings.read_of_gives
    {layer : AuditLayer}
    (gives : dialect.GivesAudit value layer) :
    AuditSettings.read dialect value = some (layer.onto .standard) := by
  obtain ⟨named, enabled, redactSender⟩ := gives
  simp only [AuditSettings.read, named, enabled.fieldOr_eq_getD fun _ _ => id,
    redactSender.fieldOr_eq_getD fun _ _ => id, Option.bind_eq_bind, Option.bind_some]
  rfl

theorem Config.read_of_gives
    {layer : ConfigLayer}
    (gives : dialect.GivesConfig value layer) :
    Config.read dialect value = some (layer.onto .standard) := by
  obtain ⟨named, defaultSubscription, maxConcurrentRuns, acknowledgment, audit⟩ := gives
  simp only [Config.read, named,
    defaultSubscription.fieldOr_eq_getD fun _ _ => Dialect.GivesSubscription.read,
    maxConcurrentRuns.fieldOr_eq_getD fun _ _ gives =>
      Dialect.GivesOptional.read gives fun _ _ => Dialect.GivesWord64.read,
    acknowledgment.fieldOr_eq fun _ _ => AckSettings.read_of_gives,
    audit.fieldOr_eq fun _ _ => AuditSettings.read_of_gives, Option.bind_eq_bind,
    Option.bind_some]
  rfl

end MmsInbox
