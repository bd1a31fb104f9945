import TaggedCache.Proofs.Outcome
import TaggedCache.Proofs.Roster
import TaggedCache.Proofs.Words
import TaggedCache.Settings.Check

/-!
# Settings that are accepted

Settings of a cache are accepted exactly when they are usable (`checkCache_eq_ok_iff`), and nothing about them is
changed but the white space around the address. What is usable registers every bin as it was chosen (`pending_ok`),
with no limit raised, and all bins can be made exactly when those in memory find their room (`validate_ok_iff`). So
whatever was chosen before and given on the command line, settings that are accepted start
(`accepted_settings_start`).
-/

namespace TaggedCache
namespace Settings

/-! ## Usable settings -/

/-- Settings that keep something, with names that are names and every bin that is asked for. -/
structure Usable (s : CacheSettings) : Prop where
  timeout : s.timeoutMillis ≠ 0
  failureLog : s.failureLogLimit ≠ 0
  bins : s.bins.size ≠ 0
  each : ∀ p ∈ s.bins.toList, Registry.isValidName p.1 ∧ (p.2.kind = .memory → p.2.capacity ≠ 0)
  address : s.needsDatabase → trimUrl s.database.url ≠ none
  connections : s.database.maxConnections ≠ 0
  required : ∀ name ∈ s.requiredBins, s.bins.contains name
  page : s.bins.contains s.pageBin

/-- The settings with the address trimmed. -/
def trimmed (s : CacheSettings) : CacheSettings :=
  { s with database := { s.database with url := trimUrl s.database.url } }

variable {s c : CacheSettings}

theorem checkPositive_eq_ok_iff {key : String} {n : Nat} {u : Unit} : checkPositive key n = .ok u ↔ n ≠ 0 := by
  unfold checkPositive
  split
  · next h => simp [h]
  · next h => simp [h]

theorem checkBin_eq_ok_iff {name : String} {b : BinSettings} {u : Unit} : checkBin name b = .ok u ↔
    Registry.isValidName name ∧ (b.kind = .memory → b.capacity ≠ 0) := by
  unfold checkBin
  simp only [ite_error_eq_ok_iff]
  split
  · next h => simp [h, checkPositive_eq_ok_iff]
  · next h => simp [h, pure, Except.pure]

theorem checkCache_eq_ok_iff : checkCache s = .ok c ↔ Usable s ∧ trimmed s = c := by
  unfold checkCache
  simp only [bind_eq_ok_iff, ite_error_eq_ok_iff, checkPositive_eq_ok_iff, forM_eq_ok_iff, checkBin_eq_ok_iff,
    exists_const]
  cases hfind : s.requiredBins.find? fun bin => !s.bins.contains bin with
  | some missing =>
    constructor
    · rintro ⟨-, -, -, -, -, -, h⟩
      cases h
    · rintro ⟨h, -⟩
      have hin := h.required missing (List.mem_of_find?_eq_some hfind)
      have hout := List.find?_some hfind
      simp [hin] at hout
  | none =>
    have hrequired : ∀ name ∈ s.requiredBins, s.bins.contains name := by simpa using hfind
    simp only [ite_error_eq_ok_iff]
    constructor
    · rintro ⟨htimeout, hlog, hbins, heach, haddress, hconnections, hpage, hc⟩
      have haddress' : s.needsDatabase → trimUrl s.database.url ≠ none := fun hd hn => haddress ⟨hd, hn⟩
      refine ⟨⟨htimeout, hlog, hbins, heach, haddress', hconnections, hrequired, ?_⟩, Except.ok.inj hc⟩
      simpa using hpage
    · rintro ⟨h, rfl⟩
      refine ⟨h.timeout, h.failureLog, h.bins, h.each, fun hd => h.address hd.1 hd.2, h.connections, ?_, rfl⟩
      simp [h.page]

/-! ## Trimmed addresses -/

theorem trimUrl_some (given : String) : trimUrl (some given) =
    if Text.trim given.toList = [] then none else some (.ofList (Text.trim given.toList)) := by
  have hnil : String.ofList (Text.trim given.toList) ≠ "" ↔ Text.trim given.toList ≠ [] := by
    rw [Ne, ← String.toList_inj, String.toList_ofList]
    rfl
  simp only [trimUrl, Option.map_some, Option.filter_some, decide_eq_true_eq, hnil, ite_not]

theorem trimUrl_trimUrl (url : Option String) : trimUrl (trimUrl url) = trimUrl url := by
  cases url with
  | none => rfl
  | some given =>
    rw [trimUrl_some]
    split
    · rfl
    · next hne => rw [trimUrl_some, String.toList_ofList, Text.trim_trim, if_neg hne]

theorem Usable.trimmed (h : Usable s) : Usable (trimmed s) where
  timeout := h.timeout
  failureLog := h.failureLog
  bins := h.bins
  each := h.each
  address hd := (trimUrl_trimUrl s.database.url).symm ▸ h.address hd
  connections := h.connections
  required := h.required
  page := h.page

theorem trimmed_trimmed (s : CacheSettings) : Settings.trimmed (Settings.trimmed s) = Settings.trimmed s := by
  simp only [Settings.trimmed, trimUrl_trimUrl]

/-! ## Registered bins -/

section

variable {ε σ : Type} {supply : Supply ε σ} {name : String} {b : BinSettings} {p : Pending}
  {slots : Registry Pending}

/-- A bin that is registered as it was chosen, with all the room or all the connections that it was given. -/
inductive Registered (d : DatabaseSettings) (b : BinSettings) : Pending → Prop where
  | memory (kind : b.kind = .memory) (capacity : b.capacity ≠ 0) : Registered d b (.memory b.capacity)
  | postgres {pool : Sql.Pool} (kind : b.kind = .postgres) (address : d.url = some pool.address)
      (connections : pool.connections = d.maxConnections) : Registered d b (.postgres pool)

theorem Registered.kind_eq {d : DatabaseSettings} (h : Registered d b p) : p.kind = b.kind := by
  cases h with
  | memory kind => exact kind.symm
  | postgres kind => exact kind.symm

/-- The bins that are chosen are registered, and no others. -/
structure Registers (s : CacheSettings) (slots : Registry Pending) : Prop where
  names : slots.names = s.bins.names
  each : ∀ name b, s.bins.get? name = some b → ∃ p, slots.get? name = some p ∧ Registered s.database b p

theorem Registers.contains (h : Registers s slots) (hn : s.bins.contains name) : slots.contains name :=
  Roster.contains_iff.mpr (h.names ▸ Roster.contains_iff.mp hn)

theorem Registers.chosen (h : Registers s slots) (hp : (name, p) ∈ slots.toList) :
    ∃ b, s.bins.get? name = some b ∧ Registered s.database b p := by
  have hget : slots.get? name = some p := Roster.get?_eq_some_iff.mpr hp
  have hname : name ∈ s.bins.names := h.names ▸ Roster.mem_names_iff.mpr ⟨p, hget⟩
  obtain ⟨b, hb⟩ := Roster.mem_names_iff.mp hname
  obtain ⟨q, hq, hregistered⟩ := h.each name b hb
  obtain rfl : p = q := Option.some.inj (hget.symm.trans hq)
  exact ⟨b, hb, hregistered⟩

/-- The database can be named, if some bin is kept in it. -/
def Addressed (s : CacheSettings) : Prop :=
  s.needsDatabase → ∃ url, s.database.url = some url ∧ Sql.checkAddress url = .ok ()

theorem pool_ok (hconnections : s.database.maxConnections ≠ 0) (haddressed : Addressed s) :
    ∃ p, s.pool = .ok p ∧ (s.needsDatabase → ∃ pool, p = some pool ∧ s.database.url = some pool.address ∧
      pool.connections = s.database.maxConnections) := by
  unfold CacheSettings.pool
  split
  · next hd =>
    obtain ⟨url, hurl, hok⟩ := haddressed hd
    rw [hurl]
    simp only [hok]
    exact ⟨_, rfl, fun _ => ⟨_, rfl, rfl, roomFor_of_ne_zero hconnections⟩⟩
  · next hd => exact ⟨none, rfl, fun hneeds => absurd hneeds hd⟩

theorem pendingBin_ok {pool? : Option Sql.Pool} (hname : Registry.isValidName name)
    (hcapacity : b.kind = .memory → b.capacity ≠ 0)
    (hpool : b.kind = .postgres → ∃ pool, pool? = some pool ∧ s.database.url = some pool.address ∧
      pool.connections = s.database.maxConnections) :
    ∃ p, CacheSettings.pendingBin pool? name b = .ok p ∧ Registered s.database b p := by
  unfold CacheSettings.pendingBin
  rw [Registry.checkName, if_pos hname]
  cases hkind : b.kind with
  | memory =>
    have hroom : b.room = b.capacity := roomFor_of_ne_zero (hcapacity hkind)
    exact ⟨_, rfl, hroom ▸ .memory hkind (hcapacity hkind)⟩
  | postgres =>
    obtain ⟨pool, rfl, haddress, hconnections⟩ := hpool hkind
    exact ⟨_, rfl, .postgres hkind haddress hconnections⟩

theorem pending_ok (h : Usable s) (haddressed : Addressed s) :
    ∃ slots, s.pending = .ok slots ∧ Registers s slots := by
  obtain ⟨pool?, hp, hpool⟩ := pool_ok h.connections haddressed
  have hbin : ∀ q ∈ s.bins.toList, ∃ p,
      CacheSettings.pendingBin pool? q.1 q.2 = .ok p ∧ Registered s.database q.2 p := fun q hq =>
    pendingBin_ok (h.each q hq).1 (h.each q hq).2 fun hkind =>
      hpool (List.any_eq_true.mpr ⟨q, hq, by simpa using hkind⟩)
  obtain ⟨slots, hslots, hnames, hvalues⟩ := Roster.mapM_ok fun q hq => (hbin q hq).imp fun _ hb => hb.1
  refine ⟨slots, ?_, hnames, fun name b hb => ?_⟩
  · rw [CacheSettings.pending, hp]
    exact hslots
  · obtain ⟨p, hpending, hget⟩ := hvalues name b hb
    obtain ⟨q, hq, hregistered⟩ := hbin (name, b) (Roster.get?_eq_some_iff.mp hb)
    obtain rfl : p = q := Except.ok.inj (hpending.symm.trans hq)
    exact ⟨p, hget, hregistered⟩

/-! ## Bins that are made -/

/-- A bin that was made as it was chosen. -/
inductive SetUp (supply : Supply ε σ) (d : DatabaseSettings) (name : String) (b : BinSettings) :
    ConfiguredBin σ → Prop where
  | memory {m : Memory} (kind : b.kind = .memory) (new : m = .new name b.capacity)
      (capacity : m.capacity = b.capacity) : SetUp supply d name b (.inl m)
  | postgres {pool : Sql.Pool} (kind : b.kind = .postgres) (address : d.url = some pool.address)
      (connections : pool.connections = d.maxConnections) :
      SetUp supply d name b (.inr (.new name (supply.connect pool)))

theorem SetUp.kind_eq [Sql.Server σ] {d : DatabaseSettings} {bin : ConfiguredBin σ}
    (h : SetUp supply d name b bin) : Storage.kind bin = b.kind.word := by
  cases h with
  | memory kind => rw [kind]; rfl
  | postgres kind => rw [kind]; rfl

/-- There is room for all that the bins in memory may hold. -/
def HasRoom (supply : Supply ε σ) (s : CacheSettings) : Prop :=
  ∀ name b, s.bins.get? name = some b → b.kind = .memory → supply.reserve b.capacity = .ok ()

theorem Registered.make_ok_iff {d : DatabaseSettings} (h : Registered d b p) :
    (∃ bin, p.make supply name = .ok bin) ↔ (b.kind = .memory → supply.reserve b.capacity = .ok ()) := by
  cases h with
  | memory kind capacity =>
    cases hreserve : supply.reserve b.capacity <;> simp [Pending.make, hreserve, kind, bind, Except.bind]
  | postgres kind address connections => simp [Pending.make, kind]

theorem Registered.setUp {d : DatabaseSettings} {bin : ConfiguredBin σ} (h : Registered d b p)
    (hmade : p.make supply name = .ok bin) : SetUp supply d name b bin := by
  cases h with
  | memory kind capacity =>
    obtain ⟨-, -, hmade⟩ := bind_ok hmade
    obtain rfl := Except.ok.inj hmade
    exact .memory kind rfl (roomFor_of_ne_zero capacity)
  | postgres kind address connections =>
    obtain rfl := Except.ok.inj hmade
    exact .postgres kind address connections

theorem Registers.validate (h : Registers s slots) (husable : Usable s) :
    Registry.validate slots s.requiredBins = .ok () := by
  have hfind : s.requiredBins.find? (fun name => !slots.contains name) = none := by
    simpa using fun name hn => h.contains (husable.required name hn)
  rw [Registry.validate, hfind]

/-- Room is all that bins can lack once they are registered. -/
theorem validate_ok_iff (h : Registers s slots) (husable : Usable s) :
    (∃ bins, Pending.validate supply slots s.requiredBins = .ok bins) ↔ HasRoom supply s := by
  rw [Pending.validate, h.validate husable]
  show (∃ bins, slots.mapM (Pending.make supply) = .ok bins) ↔ _
  rw [Roster.mapM_ok_iff]
  constructor
  · intro hmade name b hb
    obtain ⟨p, hp, hregistered⟩ := h.each name b hb
    exact hregistered.make_ok_iff.mp (hmade (name, p) (Roster.get?_eq_some_iff.mp hp))
  · rintro hroom ⟨name, p⟩ hp
    obtain ⟨b, hb, hregistered⟩ := h.chosen hp
    exact hregistered.make_ok_iff.mpr (hroom name b hb)

/-- Room for tables up to the one whose size in bytes can be counted, and no answer from the database. A larger table
ends the program, so there is no fault to report. -/
def countable : Supply (Option TaggedCache.Fault) Sql.Unreachable where
  -- seven eighths of 2 ^ 58 slots with sixteen bytes each
  reserve n := if n ≤ 252201579132747776 then .ok () else .error none
  connect _ := .silent
  fault := some

example : ¬ HasRoom countable { bins := .ofList [("page", { capacity := 9223372036854775807 })] } :=
  fun h => nomatch h "page" _ rfl rfl

theorem validate_setUp (h : Registers s slots) (husable : Usable s) {bins : Registry (ConfiguredBin σ)}
    (hbins : Pending.validate supply slots s.requiredBins = .ok bins) :
    bins.names = s.bins.names ∧ ∀ name b, s.bins.get? name = some b → ∃ bin,
      Pending.get supply slots name = .ok bin ∧ bins.get? name = some bin ∧
      SetUp supply s.database name b bin := by
  rw [Pending.validate, h.validate husable] at hbins
  obtain ⟨hnames, hmade⟩ := Roster.of_mapM_ok hbins
  refine ⟨hnames.trans h.names, fun name b hb => ?_⟩
  obtain ⟨p, hp, hregistered⟩ := h.each name b hb
  obtain ⟨bin, hbin, hget⟩ := hmade name p hp
  refine ⟨bin, ?_, hget, hregistered.setUp hbin⟩
  rw [Pending.get, Registry.bin, hp]
  exact hbin

end

/-! ## From the first choice to the start -/

/-- What is given on the command line is chosen, and otherwise what was chosen before. -/
structure Chosen (d : Draft) (o : Overrides) (s : Settings) : Prop where
  level : ∀ word, (o.level <|> d.level) = some word → LogLevel.read? word = some s.level
  noLevel : (o.level <|> d.level) = none → s.level = .info
  json : s.json = (o.json <|> d.json).getD false
  timeout : s.cache.timeoutMillis = o.timeoutMillis.getD d.cache.timeoutMillis
  url : ∀ given, (o.databaseUrl <|> d.cache.database.url) = some given →
    ∃ kept, Text.Trims given.toList kept ∧
      s.cache.database.url = if kept = [] then none else some (.ofList kept)
  noUrl : (o.databaseUrl <|> d.cache.database.url) = none → s.cache.database.url = none
  /-- Everything else is as it was chosen before. -/
  others : s.cache = { d.cache with
    timeoutMillis := s.cache.timeoutMillis
    database := { d.cache.database with url := s.cache.database.url } }

theorem checkLevel_eq_ok_iff {word? : Option String} {level : LogLevel} : checkLevel word? = .ok level ↔
    (∀ word, word? = some word → LogLevel.read? word = some level) ∧ (word? = none → level = .info) := by
  cases word? with
  | none => simp [checkLevel, eq_comm]
  | some word => cases hread : LogLevel.read? word <;> simp [checkLevel, hread]

theorem chosen_of_check {d : Draft} {o : Overrides} {s : Settings} (h : (d.override o).check = .ok s) :
    Chosen d o s ∧ Usable s.cache ∧ trimmed s.cache = s.cache := by
  obtain ⟨level, hlevel, h⟩ := bind_ok h
  obtain ⟨cache, hcache, h⟩ := bind_ok h
  obtain rfl := Except.ok.inj h
  obtain ⟨hread, hinfo⟩ := checkLevel_eq_ok_iff.mp hlevel
  obtain ⟨husable, rfl⟩ := checkCache_eq_ok_iff.mp hcache
  refine ⟨?_, husable.trimmed, trimmed_trimmed _⟩
  constructor
  case level => exact hread
  case noLevel => exact hinfo
  case json => rfl
  case timeout => rfl
  case url =>
    intro given hgiven
    exact ⟨Text.trim given.toList, Text.trims_trim _, (congrArg trimUrl hgiven).trans (trimUrl_some given)⟩
  case noUrl => exact fun hnone => congrArg trimUrl hnone
  case others => rfl

/-- Settings that are accepted are accepted again as they are, and everything starts from them as it was chosen,
if the database can be named and the bins in memory find their room. -/
theorem accepted_settings_start {ε σ : Type} [Sql.Server σ] (supply : Supply ε σ) {d : Draft} {o : Overrides}
    {s : Settings} (h : (d.override o).check = .ok s)
    (haddress : s.cache.needsDatabase →
      ∀ url, s.cache.database.url = some url → Sql.checkAddress url = .ok ()) :
    Chosen d o s ∧ checkCache s.cache = .ok s.cache ∧
    s.cache.timeoutMillis ≠ 0 ∧ s.cache.failureLogLimit ≠ 0 ∧ s.cache.database.maxConnections ≠ 0 ∧
    ∃ slots, s.cache.pending = .ok slots ∧ slots.names = s.cache.bins.names ∧
      (∀ name b, s.cache.bins.get? name = some b → ∃ p, slots.get? name = some p ∧
        p.kind = b.kind ∧ Registered s.cache.database b p) ∧
      Registry.validate slots s.cache.requiredBins = .ok () ∧
      (HasRoom supply s.cache → ∃ bins, Pending.validate supply slots s.cache.requiredBins = .ok bins ∧
        bins.names = s.cache.bins.names ∧
        (∀ name b, s.cache.bins.get? name = some b → ∃ bin, Pending.get supply slots name = .ok bin ∧
          bins.get? name = some bin ∧ Storage.kind bin = b.kind.word ∧
          SetUp supply s.cache.database name b bin) ∧
        s.cache.pageLayer supply slots = .ok (.new s.cache.pageBin) ∧
        Page.Layer.ofRegistry bins s.cache.pageBin = .ok (.new s.cache.pageBin) ∧
        ∃ n, s.cache.notifierWith supply = .ok n ∧ n.broadcaster.bins = bins ∧
          n.broadcaster.timeout.millis = s.cache.timeoutMillis ∧
          n.log.limit = s.cache.failureLogLimit) := by
  obtain ⟨hchosen, husable, htrimmed⟩ := chosen_of_check h
  have haddressed : Addressed s.cache := by
    intro hd
    have hne := husable.address hd
    have hurl : trimUrl s.cache.database.url = s.cache.database.url := congrArg (·.database.url) htrimmed
    rw [hurl] at hne
    obtain ⟨url, hurl⟩ := Option.ne_none_iff_exists'.mp hne
    exact ⟨url, hurl, haddress hd url hurl⟩
  obtain ⟨slots, hslots, hregisters⟩ := pending_ok husable haddressed
  refine ⟨hchosen, checkCache_eq_ok_iff.mpr ⟨husable, htrimmed⟩, husable.timeout, husable.failureLog,
    husable.connections, slots, hslots, hregisters.names, fun name b hb => ?_, hregisters.validate husable,
    fun hroom => ?_⟩
  · obtain ⟨p, hp, hregistered⟩ := hregisters.each name b hb
    exact ⟨p, hp, hregistered.kind_eq, hregistered⟩
  · obtain ⟨bins, hbins⟩ := (validate_ok_iff hregisters husable).mpr hroom
    obtain ⟨hnames, hmade⟩ := validate_setUp hregisters husable hbins
    obtain ⟨b, hb⟩ := Option.isSome_iff_exists.mp husable.page
    obtain ⟨page, hpage, hget, -⟩ := hmade s.cache.pageBin b hb
    refine ⟨bins, hbins, hnames, fun name b hb => ?_, ?_, ?_,
      .new (.new bins s.cache.timeout) s.cache.failureLogLimit, ?_, rfl, rfl,
      roomFor_of_ne_zero husable.failureLog⟩
    · obtain ⟨bin, hbin, hget, hsetUp⟩ := hmade name b hb
      exact ⟨bin, hbin, hget, hsetUp.kind_eq, hsetUp⟩
    · rw [CacheSettings.pageLayer, hpage]
      rfl
    · rw [Page.Layer.ofRegistry, Registry.bin, hget]
      rfl
    · rw [CacheSettings.notifierWith, hslots]
      show (Pending.validate supply slots s.cache.requiredBins >>= _) = _
      rw [hbins]
      rfl

/-- A bin in memory and one in a database without an address. -/
def mixed : Draft where
  cache := { bins := .ofList [("page", { capacity := 3 }), ("rows", { kind := .postgres })] }

/-- A level, a limit and an address between blanks. -/
def given : Overrides where
  level := some "WARN"
  timeoutMillis := some 1
  databaseUrl := some " postgres://localhost/app\n"

theorem accepted_settings_start_mixed :
    ∃ s slots bins, (mixed.override given).check = .ok s ∧ s.level = .warn ∧
      s.cache.database.url = some "postgres://localhost/app" ∧
      Sql.checkAddress "postgres://localhost/app" = .ok () ∧ HasRoom countable s.cache ∧
      s.cache.pending = .ok slots ∧ Pending.validate countable slots s.cache.requiredBins = .ok bins ∧
      bins.names = ["page", "rows"] := by
  have hurl : trimUrl given.databaseUrl = some "postgres://localhost/app" := by decide +kernel
  have haddress : Sql.checkAddress "postgres://localhost/app" = .ok () := by decide +kernel
  have hcheck : (mixed.override given).check = .ok ⟨.warn, false, trimmed (mixed.override given).cache⟩ := by
    decide +kernel
  have hroom : HasRoom countable (trimmed (mixed.override given).cache) := by
    intro name b hb hkind
    have hmem : (name, b) ∈ [("page", { capacity := 3 }), ("rows", { kind := .postgres : BinSettings })] :=
      Roster.get?_eq_some_iff.mp hb
    obtain ⟨rfl, rfl⟩ | ⟨rfl, rfl⟩ : (name = "page" ∧ b = { capacity := 3 }) ∨
        (name = "rows" ∧ b = { kind := .postgres }) := by simpa using hmem
    · rfl
    · cases hkind
  obtain ⟨-, -, -, -, -, slots, hslots, -, -, -, hstart⟩ :=
    accepted_settings_start countable hcheck
      fun _ url hsome => Option.some.inj (hurl.symm.trans hsome) ▸ haddress
  obtain ⟨bins, hbins, hnames, -⟩ := hstart hroom
  exact ⟨_, slots, bins, hcheck, rfl, hurl, haddress, hroom, hslots, hbins, hnames⟩

end Settings
end TaggedCache
