import Mathlib.Data.List.Basic
import Screens.CommandLine.Run

/-! Options in place of what a configuration file says.

`serve` goes on exactly with the merged configuration, and only if that is valid and names a
template directory. But it looks at the file on its own first: an address there has to read as one
even where an option takes its place (`serve_options`). Nothing else that an option replaces makes
a difference. -/
namespace Screens

namespace Config

variable {c other : Config}

/-- What the configuration has for an address reads as one. -/
def HasAddress (c : Config) : Prop := (SocketAddress.ofString? c.server.bindAddress).isNone = false

instance (c : Config) : Decidable c.HasAddress := inferInstanceAs (Decidable (_ = _))

theorem fault?_of_not_hasAddress (h : ¬ c.HasAddress) :
    c.fault? = some (.notAnAddress c.server.bindAddress) := by
  rw [fault?, if_pos (Bool.not_eq_false _ ▸ h)]

theorem hasAddress_of_valid (h : c.fault? = none) : c.HasAddress :=
  Decidable.byContradiction fun hno => by cases h.symm.trans (fault?_of_not_hasAddress hno)

/-- Configurations that differ in template directories only, or in addresses that both read as
such, have the same fault. -/
theorem fault?_congr (hi : c.interpreter = other.interpreter) (hr : c.resources = other.resources)
    (ha : c.server = other.server ∨ c.HasAddress ∧ other.HasAddress) :
    c.fault? = other.fault? := by
  unfold fault?
  rcases ha with ha | ⟨hc, ho⟩
  · rw [hi, hr, ha]
  · rw [hi, hr, hc, ho]
    rfl

end Config

namespace CommandLine

variable {around : Surroundings} {config bind templates : Option String} {c : Config}

/-- The configuration file that is read: the one given, or else the standard one. -/
def Surroundings.configFile (around : Surroundings) (config : Option String) : String :=
  config.getD (Config.standardPath around.configHome)

/-- The configuration before the options count. -/
def loaded (around : Surroundings) (config : Option String) : Except Config.Error Config :=
  match config with
  | some path => Config.load around.disk path
  | none => Config.loadStandard around.disk around.configHome

theorem bind_eq_ok {ε α β : Type} {x : Except ε α} {f : α → Except ε β} {b : β} :
    (x >>= f) = .ok b ↔ ∃ a, x = .ok a ∧ f a = .ok b := by
  cases x with
  | error e => exact ⟨nofun, fun ⟨_, h, _⟩ => nomatch h⟩
  | ok a => exact ⟨fun h => ⟨a, rfl, h⟩, fun ⟨_, ha, h⟩ => Except.ok.inj ha ▸ h⟩

theorem mapError_eq_ok {ε δ α : Type} {x : Except ε α} {f : ε → δ} {a : α} :
    x.mapError f = .ok a ↔ x = .ok a := by
  cases x with
  | error e => exact ⟨nofun, nofun⟩
  | ok b => exact ⟨fun h => Except.ok.inj h ▸ rfl, fun h => Except.ok.inj h ▸ rfl⟩

/-! ### Getting past the configuration -/

theorem holds_of_readFile {disk : Disk} {path : String} (h : Config.readFile disk path = .ok c) :
    disk.holds path = true := by
  unfold Disk.holds
  cases hentry : disk.entry path with
  | ok entry => rfl
  | error e =>
    unfold Config.readFile Disk.readText Disk.read at h
    rw [hentry] at h
    cases h

/-- A file that can be read counts if it is valid on its own. -/
theorem loaded_of_readFile (h : Config.readFile around.disk (around.configFile config) = .ok c) :
    loaded around config = c.validated := by
  have hload : Config.load around.disk (around.configFile config) = c.validated := by
    rw [Config.load, h]
    rfl
  cases config with
  | some path => exact hload
  | none =>
    have hthere : around.disk.holds (Config.standardPath around.configHome) = true :=
      holds_of_readFile h
    rw [loaded, Config.loadStandard, if_pos hthere]
    exact hload

section Accounts

variable [Wording]

theorem serveConfig_eq_bind (around : Surroundings) (config bind templates : Option String) :
    serveConfig around config bind templates =
      (loaded around config).mapError configAccount >>= fun c =>
        (overridden c bind templates).validated.mapError configAccount >>= fun used =>
          match used.templates.directory with
          | some directory => .ok (used, directory)
          | none => .error [.text noDirectoryText] := by
  cases config <;> rfl

theorem validated_mapError (c : Config) :
    c.validated.mapError configAccount =
      match c.fault? with
      | some fault => .error [.text fault.message]
      | none => .ok c := by
  unfold Config.validated
  cases c.fault? <;> rfl

/-- The first fault of the file counts, then that of the merged configuration; after that a
template directory is needed. -/
theorem serveConfig_eq (h : Config.readFile around.disk (around.configFile config) = .ok c) :
    serveConfig around config bind templates =
      match c.fault?.or (overridden c bind templates).fault? with
      | some fault => .error [.text fault.message]
      | none =>
        match (overridden c bind templates).templates.directory with
        | some directory => .ok (overridden c bind templates, directory)
        | none => .error [.text noDirectoryText] := by
  rw [serveConfig_eq_bind, loaded_of_readFile h, validated_mapError]
  cases c.fault? with
  | some fault => rfl
  | none =>
    show ((overridden c bind templates).validated.mapError configAccount >>= _) = _
    rw [validated_mapError]
    cases (overridden c bind templates).fault? <;> rfl

/-- The configuration that is used is the merged one. It has to be valid and to name a directory;
and where the address is an option, the one in the file has to read as an address all the same. -/
theorem serveConfig_eq_ok_iff
    (h : Config.readFile around.disk (around.configFile config) = .ok c) {used : Config}
    {directory : String} :
    serveConfig around config bind templates = .ok (used, directory) ↔
      used = overridden c bind templates ∧ used.fault? = none ∧
        used.templates.directory = some directory ∧ (bind.isSome = true → c.HasAddress) := by
  rw [serveConfig_eq h]
  constructor
  · intro hused
    split at hused
    · cases hused
    · rename_i hfaults
      obtain ⟨hfile, hmerged⟩ := Option.or_eq_none_iff.1 hfaults
      split at hused
      · cases hused
        exact ⟨rfl, hmerged, ‹_›, fun _ => Config.hasAddress_of_valid hfile⟩
      · cases hused
  · rintro ⟨rfl, hmerged, hdirectory, haddress⟩
    have hserver : c.server = (overridden c bind templates).server ∨
        c.HasAddress ∧ (overridden c bind templates).HasAddress := by
      cases bind with
      | none => exact .inl rfl
      | some text => exact .inr ⟨haddress rfl, Config.hasAddress_of_valid hmerged⟩
    have hsame : c.fault? = (overridden c bind templates).fault? :=
      Config.fault?_congr rfl rfl hserver
    rw [hsame, hmerged, hdirectory]
    rfl

/-! ### Serving -/

/-- The resolver to start with: every template is fetched for it if the configuration says so. -/
def firstResolver (around : Surroundings) (c : Config) (directory : String) :
    Except Account Resolver :=
  if c.templates.preload then
    match Resolver.empty.warm ((TemplateDirectory.mk directory).store around.disk) with
    | (.ok _, resolver) => .ok resolver
    | (.error e, _) => .error (resolveAccount e)
  else .ok .empty

/-- A service runs with the values of a configuration and the templates of a directory. -/
structure RunsWith (around : Surroundings) (c : Config) (directory : String) (service : Service) :
    Prop where
  templates : service.templates = ⟨directory⟩
  maxDepth : service.maxDepth = c.interpreter.maxDepth.toNat
  resolver : firstResolver around c directory = .ok service.resolver
  address : (Server.fresh.bind around.listen c.server.bindAddress).1 = .ok service.address

theorem startServing_eq_bind (around : Surroundings) (config bind templates : Option String) :
    startServing around config bind templates =
      serveConfig around config bind templates >>= fun settled =>
        firstResolver around settled.1 settled.2 >>= fun resolver =>
          (Server.fresh.bind around.listen settled.1.server.bindAddress).1.mapError serviceAccount
            >>= fun address =>
              .ok ⟨address, ⟨settled.2⟩, resolver, settled.1.interpreter.maxDepth.toNat⟩ := by
  unfold startServing
  refine congrArg (serveConfig around config bind templates >>= ·) (funext fun settled => ?_)
  obtain ⟨used, directory⟩ := settled
  dsimp only [firstResolver]
  cases used.templates.preload with
  | false => rfl
  | true =>
    rcases Resolver.empty.warm ((TemplateDirectory.mk directory).store around.disk)
      with ⟨_ | _, resolver⟩ <;> rfl

theorem startServing_eq_ok_iff {service : Service} :
    startServing around config bind templates = .ok service ↔
      ∃ used directory, serveConfig around config bind templates = .ok (used, directory) ∧
        RunsWith around used directory service := by
  rw [startServing_eq_bind, bind_eq_ok]
  constructor
  · rintro ⟨⟨used, directory⟩, hsettled, h⟩
    obtain ⟨resolver, hresolver, h⟩ := bind_eq_ok.1 h
    obtain ⟨address, haddress, h⟩ := bind_eq_ok.1 h
    cases h
    exact ⟨used, directory, hsettled, rfl, rfl, hresolver, mapError_eq_ok.1 haddress⟩
  · rintro ⟨used, directory, hsettled, h⟩
    refine ⟨(used, directory), hsettled, bind_eq_ok.2 ⟨service.resolver, h.resolver, ?_⟩⟩
    refine bind_eq_ok.2 ⟨service.address, mapError_eq_ok.2 h.address, ?_⟩
    rw [← h.templates, ← h.maxDepth]

theorem serve_eq_serving_iff {service : Service} :
    serve around config bind templates = .serving service ↔
      startServing around config bind templates = .ok service := by
  unfold serve
  cases startServing around config bind templates <;> simp

/-- Where the configuration is kept counts no more once it is settled. -/
theorem serve_congr {home : String} {other : Option String}
    (h : serveConfig { around with configHome := home } other bind templates =
      serveConfig around config bind templates) :
    serve { around with configHome := home } other bind templates =
      serve around config bind templates := by
  unfold serve
  rw [startServing_eq_bind, startServing_eq_bind, h]
  rfl

/-- Files that differ in nothing but what is replaced come to the same, if an address replaced
reads as one in both. -/
theorem serveConfig_congr {home : String} {other : Option String} {d : Config}
    (h : Config.readFile around.disk (around.configFile config) = .ok c)
    (hd : Config.readFile around.disk ({ around with configHome := home }.configFile other) = .ok d)
    (hmerged : overridden d bind templates = overridden c bind templates)
    (hserver : d.server = c.server ∨ d.HasAddress ∧ c.HasAddress) :
    serveConfig { around with configHome := home } other bind templates =
      serveConfig around config bind templates := by
  have hinterpreter := congrArg Config.interpreter hmerged
  have hresources := congrArg Config.resources hmerged
  have hfault : d.fault? = c.fault? := Config.fault?_congr hinterpreter hresources hserver
  rw [serveConfig_eq hd, serveConfig_eq h, hfault, hmerged]

/-- **Options override what a file says**, but for an address that reads as none. Of a file that can
be read, `serve` gets past the configuration with exactly the merged values, if these are valid and
name a template directory, and then runs with them; and of files that differ in nothing but what is
replaced the outcome is the same. Where the address is replaced, the one in the file has to read as
an address for that: otherwise the file is turned down for it, whatever the options. -/
theorem serve_options (h : Config.readFile around.disk (around.configFile config) = .ok c)
    (bind templates : Option String) :
    (∀ used directory, serveConfig around config bind templates = .ok (used, directory) ↔
      used = overridden c bind templates ∧ used.fault? = none ∧
        used.templates.directory = some directory ∧ (bind.isSome = true → c.HasAddress)) ∧
    (∀ service, serve around config bind templates = .serving service ↔
      ∃ directory,
        serveConfig around config bind templates = .ok (overridden c bind templates, directory) ∧
        RunsWith around (overridden c bind templates) directory service) ∧
    (∀ home other d,
      Config.readFile around.disk ({ around with configHome := home }.configFile other) = .ok d →
      overridden d bind templates = overridden c bind templates →
      (bind.isSome = true → d.server ≠ c.server → d.HasAddress ∧ c.HasAddress) →
        serve { around with configHome := home } other bind templates =
          serve around config bind templates) ∧
    (¬ c.HasAddress → serve around config bind templates =
      .failed "" [.text (Config.Fault.notAnAddress c.server.bindAddress).message]) := by
  refine ⟨fun _ _ => serveConfig_eq_ok_iff h, fun service => ?_, ?_, fun hno => ?_⟩
  · rw [serve_eq_serving_iff, startServing_eq_ok_iff]
    constructor
    · rintro ⟨used, directory, hsettled, hruns⟩
      obtain ⟨rfl, -⟩ := (serveConfig_eq_ok_iff h).1 hsettled
      exact ⟨directory, hsettled, hruns⟩
    · rintro ⟨directory, hsettled, hruns⟩
      exact ⟨_, directory, hsettled, hruns⟩
  · intro home other d hd hmerged hreplaced
    refine serve_congr (serveConfig_congr h hd hmerged ?_)
    cases bind with
    | none =>
      have hserver := congrArg Config.server hmerged
      exact .inl hserver
    | some text => exact (Decidable.em _).imp_right (hreplaced rfl)
  · have hrefused : serveConfig around config bind templates =
        .error [.text (Config.Fault.notAnAddress c.server.bindAddress).message] := by
      rw [serveConfig_eq h, Config.fault?_of_not_hasAddress hno]
      rfl
    unfold serve
    rw [startServing_eq_bind, hrefused]
    rfl

end Accounts

/-- Three configuration files: one with an address and a template directory, one with nothing in it,
and one with an address that reads as none. -/
def office : Surroundings where
  disk := .ofEntries [
    ("old.toml", .ok (.file
      "[server]\nbind_addr = \"0.0.0.0:80\"\n[templates]\ndirectory = \"u\"\n".toUTF8.toList)),
    ("new.toml", .ok (.file [])),
    ("bad.toml", .ok (.file "[server]\nbind_addr = \"zzz\"\n".toUTF8.toList))]
  configHome := "/etc"
  listen := .ok

def oldOffice : Config :=
  { Config.standard with server := ⟨"0.0.0.0:80"⟩, templates := ⟨some "u", false⟩ }

def badOffice : Config := { Config.standard with server := ⟨"zzz"⟩ }

def localhost : SocketAddress := .v4 ⟨127, 0, 0, 1⟩ 0

/-- Where both values are replaced, the first two files come to the same, and the last is refused. -/
theorem office_with_options :
    serve office (some "old.toml") (some "127.0.0.1:0") (some "t") =
      .serving ⟨localhost, ⟨"t"⟩, .empty, 32⟩ ∧
    serve office (some "new.toml") (some "127.0.0.1:0") (some "t") =
      serve office (some "old.toml") (some "127.0.0.1:0") (some "t") ∧
    serve office (some "bad.toml") (some "127.0.0.1:0") (some "t") =
      .failed "" [.text (Config.Fault.notAnAddress "zzz").message] := by
  have hold : Config.readFile office.disk (office.configFile (some "old.toml")) = .ok oldOffice := by
    decide +kernel
  have hnew : Config.readFile office.disk (office.configFile (some "new.toml")) =
      .ok Config.standard := by decide +kernel
  have hbad : Config.readFile office.disk (office.configFile (some "bad.toml")) = .ok badOffice := by
    decide +kernel
  have haddress : oldOffice.HasAddress := by decide +kernel
  obtain ⟨hsettled, hserving, hsame, -⟩ := serve_options hold (some "127.0.0.1:0") (some "t")
  refine ⟨?_, ?_, (serve_options hbad _ _).2.2.2 (by decide +kernel)⟩
  · have hmerged := (hsettled _ "t").2 ⟨rfl, by decide +kernel, rfl, fun _ => haddress⟩
    exact (hserving _).2 ⟨"t", hmerged, rfl, rfl, rfl, by decide +kernel⟩
  · have hstandard : Config.standard.HasAddress := by decide +kernel
    exact hsame "/etc" (some "new.toml") _ hnew rfl fun _ _ => ⟨hstandard, haddress⟩

/-- The merged configuration is valid and names a directory, and it is that of another file, which
is served; but this file is turned down for the address that is replaced. -/
theorem replaced_address_refused :
    Config.readFile office.disk "bad.toml" = .ok badOffice ∧
    (overridden badOffice (some "127.0.0.1:0") (some "t")).fault? = none ∧
    (overridden badOffice (some "127.0.0.1:0") (some "t")).templates.directory = some "t" ∧
    serveConfig office (some "bad.toml") (some "127.0.0.1:0") (some "t") =
      .error [.text
        "Invalid server.bind_addr: 'zzz' is not host:port (invalid socket address syntax)"] ∧
    Config.readFile office.disk "new.toml" = .ok Config.standard ∧
    overridden Config.standard (some "127.0.0.1:0") (some "t") =
      overridden badOffice (some "127.0.0.1:0") (some "t") ∧
    serve office (some "new.toml") (some "127.0.0.1:0") (some "t") =
      .serving ⟨localhost, ⟨"t"⟩, .empty, 32⟩ := by
  decide +kernel

end CommandLine
end Screens
