import ClassroomSuite.Config.BootManagerFormats
import ClassroomSuite.Python.Mirroring

/-!
# The two descriptions of a configuration

A configuration is described by a JSON schema and by models, which are to be kept in sync. Here both
are written down, section by section. The models mirror the schema: a document that the schema
accepts is accepted by the models, unless it has a float in the place of an integer that is not
converted, or a text in which the engine of the models does not find a pattern; and a document that
the models accept is accepted by the schema, unless the models are more lenient about it in one of
the ways that `LenientAbout` lists.

Source: `config/schema.yaml`; `cli/src/bcs/config/models.py`.

## Main definitions

* `ClassroomSchema.classroomConfig`, `ClassroomModels.classroomConfig`.

## Main results

* `classroomModels_mirror`: the check succeeds.
* `formats_differ_exactly`.
-/

namespace ClassroomSuite.Config

open Python

/-- The pattern of names (`_SLUG`). -/
def slugPattern : String := "^[a-z0-9]+(-[a-z0-9]+)*$"

/-- The pattern of colours (`_HEX_COLOR`). -/
def hexColorPattern : String := "^#[0-9a-fA-F]\x7b6\x7d$"

/-- The pattern of academic years (`_ACADEMIC_YEAR`). -/
def academicYearPattern : String := "^[0-9]\x7b4\x7d-[0-9]\x7b4\x7d$"

/-- The pattern of dates (`_DATE`). -/
def datePattern : String := "^[0-9]\x7b4\x7d-[0-9]\x7b2\x7d-[0-9]\x7b2\x7d$"

/-- The pattern of hardware addresses (`_MAC`). -/
def macPattern : String := "^([0-9a-fA-F]\x7b2\x7d:)\x7b5\x7d[0-9a-fA-F]\x7b2\x7d$"

/-- The pattern of the names of accounts. -/
def accountPattern : String := "^[a-z_][a-z0-9_-]*$"

/-- The pattern of the identifiers of menu entries. -/
def entryIdPattern : String := "^[a-z0-9-]+$"

/-! ### The schema -/

namespace ClassroomSchema

/-- `type: string`. -/
abbrev string : SchemaTerm := .text none

/-- `type: string`, with `format`. -/
abbrev formatted (format : String) : SchemaTerm := .text none (some format)

/-- `metadata`: the name of a classroom, with labels and annotations. -/
def metadata : SchemaTerm :=
  .object ["name"] false
    [("name", .text (some slugPattern)), ("labels", .map 0 string), ("annotations", .map 0 string)]

/-- `project`: whose classroom it is. -/
def project : SchemaTerm :=
  .object ["displayName", "centre"] false
    [("displayName", string), ("centre", string),
      ("academicYear", .text (some academicYearPattern)), ("contact", formatted "email"),
      ("description", string)]

/-- `colors` of `branding`. -/
def colors : SchemaTerm :=
  .object [] false
    [("primary", .text (some hexColorPattern)), ("accent", .text (some hexColorPattern))]

/-- `branding`: the pictures, the font and the colours. -/
def branding : SchemaTerm :=
  .object [] false
    [("logo", string), ("icon", string), ("background", string), ("font", string),
      ("colors", colors)]

/-- `menuEntry`: one entry of the boot menu. -/
def menuEntry : SchemaTerm :=
  .object ["id", "label", "action"] false
    [("id", .text (some entryIdPattern)), ("label", .map 1 string),
      ("action", .enum ["boot-installed-os", "request-deploy-maintenance", "boot-recovery"])]

/-- `menu`: the entries, and which of them is booted. -/
def menu : SchemaTerm :=
  .object ["entries", "defaultEntry"] false
    [("timeoutSeconds", .integer 0), ("defaultEntry", string), ("entries", .array 1 menuEntry)]

/-- `fallback`: what is booted if the configuration has an error. -/
def fallback : SchemaTerm :=
  .object [] false [("onConfigError", .enum ["boot-installed-os"])]

/-- `bootManager`: the menu and its fallback. -/
def bootManager : SchemaTerm :=
  .object ["menu"] false [("enabled", .boolean), ("menu", menu), ("fallback", fallback)]

/-- `baseImage`: the distribution that an image is built from. -/
def baseImage : SchemaTerm :=
  .object ["distro", "distroVersion", "baseDistribution", "baseDistributionVersion"] false
    [("distro", .enum ["lliurex"]), ("distroVersion", string),
      ("baseDistribution", .enum ["ubuntu"]), ("baseDistributionVersion", string),
      ("pinnedSnapshot", .text (some datePattern))]

/-- `recoveryPartition` of `partitioning`. -/
def recoveryPartition : SchemaTerm :=
  .object [] false [("enabled", .boolean), ("sizeMiB", .integer 1024)]

/-- `partitioning`: the sizes of the partitions. -/
def partitioning : SchemaTerm :=
  .object ["espSizeMiB"] false
    [("scheme", .enum ["gpt"]), ("espSizeMiB", .integer 256),
      ("recoveryPartition", recoveryPartition)]

/-- `builder`: how an image is built. -/
def builder : SchemaTerm :=
  .object ["baseImage", "partitioning"] false
    [("baseImage", baseImage), ("partitioning", partitioning),
      ("provenance", .object [] false [("checksumAlgorithm", .enum ["sha256", "sha512"])]),
      ("output", .object [] false
        [("format", .enum ["partclone"]), ("compression", .enum ["none", "gzip", "zstd"])])]

/-- `repository`: a source of packages. -/
def repository : SchemaTerm :=
  .object ["name", "uri", "signingKey"] false
    [("name", string), ("uri", formatted "uri"), ("signingKey", string)]

/-- `packages`: what is installed, and from where. -/
def packages : SchemaTerm :=
  .object ["base"] false
    [("base", .array 1 string), ("profiles", .map 0 (.array 0 string)),
      ("remove", .array 0 string), ("repositories", .array 0 repository)]

/-- `transport`: how an image is sent. -/
def transport : SchemaTerm :=
  .object [] false
    [("pxe", .object [] false [("enabled", .boolean), ("serverAddress", formatted "ipv4")]),
      ("multicast", .object [] false [("enabled", .boolean), ("addressRange", string)])]

/-- `session`: how large a deployment is, how long it may take and how often it is tried. -/
def session : SchemaTerm :=
  .object [] false
    [("referenceClassroomSize", .integer 1), ("timeoutMinutes", .integer 1),
      ("retry", .object [] false [("maxAttempts", .integer 0), ("backoffSeconds", .integer 0)])]

/-- `verification` of a deployment. -/
def verification : SchemaTerm :=
  .object [] false
    [("checksumAlgorithm", .enum ["sha256", "sha512"]),
      ("onMismatch", .enum ["abort-machine", "abort-session"])]

/-- `reporting` of a deployment. -/
def reporting : SchemaTerm :=
  .object [] false [("format", .enum ["json", "text"]), ("retentionDays", .integer 1)]

/-- `maintenanceRequests` of a deployment. -/
def maintenanceRequests : SchemaTerm :=
  .object [] false
    [("enabled", .boolean), ("machineIdentity", .enum ["mac-address", "dmi-uuid", "custom"])]

/-- `deploy`: how an image is deployed. -/
def deploy : SchemaTerm :=
  .object ["transport", "session"] false
    [("transport", transport), ("session", session), ("verification", verification),
      ("reporting", reporting), ("maintenanceRequests", maintenanceRequests)]

/-- `account`: a user of the machines. -/
def account : SchemaTerm :=
  .object ["name", "role"] false
    [("name", .text (some accountPattern)), ("role", .enum ["teacher", "student", "technician"]),
      ("groups", .array 0 string), ("sudo", .boolean)]

/-- `authentication`: by accounts of the machine, by a directory, or none. -/
def authentication : SchemaTerm :=
  .object [] false
    [("method", .enum ["local", "ldap", "none"]),
      ("ldap", .object [] false [("uri", formatted "uri"), ("baseDn", string)])]

/-- `users`: the accounts and their sessions. -/
def users : SchemaTerm :=
  .object [] false
    [("defaultProfile", .object [] false [("shell", string), ("groups", .array 0 string)]),
      ("accounts", .array 0 account), ("authentication", authentication),
      ("session", .object [] false [("autologin", .boolean), ("guestSession", .boolean)])]

/-- `addressing`: by a server or by a table. -/
def addressing : SchemaTerm :=
  .object ["mode"] false
    [("mode", .enum ["dhcp", "static"]),
      ("staticAssignments", .array 0 (.object ["hostname", "mac", "ip"] false
        [("hostname", string), ("mac", .text (some macPattern)), ("ip", formatted "ipv4")]))]

/-- `network`: names, addresses and the proxy. -/
def network : SchemaTerm :=
  .object ["addressing"] false
    [("hostnamePattern", string), ("domain", string), ("dns", .array 0 (formatted "ipv4")),
      ("proxy", .object [] false
        [("http", string), ("https", string), ("noProxy", .array 0 string)]),
      ("addressing", addressing)]

/-- `localization`: the languages, the keyboard and the time zone. -/
def localization : SchemaTerm :=
  .object ["defaultLocale"] false
    [("defaultLocale", .enum ["ca_ES", "es_ES"]),
      ("supportedLocales", .array 0 (.enum ["ca_ES", "es_ES", "en_US"])),
      ("timezone", string), ("keyboardLayout", string)]

/-- `security`: Secure Boot, credentials, updates and trust. -/
def security : SchemaTerm :=
  .object ["secureBoot", "credentials"] false
    [("secureBoot", .object ["mode"] false
        [("mode", .enum ["enforce", "permissive", "disabled"])]),
      ("credentials", .object [] false [("embedSharedCredentials", .constFalse)]),
      ("updates", .object [] false [("autoSecurityUpdates", .boolean)]),
      ("imageSigning", .object [] false [("enabled", .boolean), ("keyRef", string)]),
      ("networkTrust", .object [] false [("allowedDeployServers", .array 0 (formatted "ipv4"))])]

/-- `spec`: all sections of a classroom. -/
def spec : SchemaTerm :=
  .object ["project", "bootManager", "builder", "packages", "deploy", "network", "localization",
      "security"] true
    [("project", project), ("branding", branding), ("bootManager", bootManager),
      ("builder", builder), ("packages", packages), ("deploy", deploy), ("users", users),
      ("network", network), ("localization", localization), ("security", security),
      ("extensions", .map 0 .any)]

/-- The schema of a document. -/
def classroomConfig : SchemaTerm :=
  .object ["apiVersion", "kind", "metadata", "spec"] true
    [("apiVersion", .enum ["bcs/v1alpha1"]), ("kind", .enum ["ClassroomConfig"]),
      ("metadata", metadata), ("spec", spec)]

end ClassroomSchema

/-! ### The models -/

namespace ClassroomModels

/-- `str`. -/
abbrev str : ModelTerm := .str none

/-- `list[str]`. -/
abbrev strList : ModelTerm := .list 0 str

/-- A model without extension points (`StrictModel`). -/
abbrev strict (fields : List (FieldHead × ModelTerm)) : ModelTerm := .model false fields

/-- A model with extra keys that start with `x-` (`ExtensibleModel`). -/
abbrev extensible (fields : List (FieldHead × ModelTerm)) : ModelTerm := .model true fields

/-- A field that has to be given. -/
abbrev needed (name : String) (aliasName : Option String := none) : FieldHead :=
  { name, aliasName, required := true }

/-- A field with a default. -/
abbrev defaulted (name : String) (aliasName : Option String := none) : FieldHead :=
  { name, aliasName }

/-- A field that is `None` by default. -/
abbrev optional (name : String) (aliasName : Option String := none) : FieldHead :=
  { name, aliasName, nullable := true }

/-- `Metadata`. -/
def metadata : ModelTerm := strict [
  (needed "name", .str (some slugPattern)),
  (defaulted "labels", .dict 0 str),
  (defaulted "annotations", .dict 0 str)]

/-- `ProjectSpec`. -/
def projectSpec : ModelTerm := strict [
  (needed "display_name" (some "displayName"), str),
  (needed "centre", str),
  (optional "academic_year" (some "academicYear"), .str (some academicYearPattern)),
  (optional "contact", str),
  (optional "description", str)]

/-- `Colors`. -/
def colors : ModelTerm := strict [
  (optional "primary", .str (some hexColorPattern)),
  (optional "accent", .str (some hexColorPattern))]

/-- `BrandingSpec`. -/
def brandingSpec : ModelTerm := strict [
  (optional "logo", str),
  (optional "icon", str),
  (optional "background", str),
  (optional "font", str),
  (optional "colors", colors)]

/-- `MenuEntry`. -/
def menuEntry : ModelTerm := strict [
  (needed "id", str),
  (needed "label", .dict 1 str),
  (needed "action",
    .literal ["boot-installed-os", "request-deploy-maintenance", "boot-recovery"])]

/-- `Menu`. -/
def menu : ModelTerm := strict [
  (defaulted "timeout_seconds" (some "timeoutSeconds"), .int 0),
  (needed "default_entry" (some "defaultEntry"), str),
  (needed "entries", .list 1 menuEntry)]

/-- `Fallback`. -/
def fallback : ModelTerm := strict [
  (defaulted "on_config_error" (some "onConfigError"), .literal ["boot-installed-os"])]

/-- `BootManagerSpec`. -/
def bootManagerSpec : ModelTerm := strict [
  (defaulted "enabled", .bool),
  (needed "menu", menu),
  (defaulted "fallback", fallback)]

/-- `BaseImage`. -/
def baseImage : ModelTerm := strict [
  (needed "distro", .literal ["lliurex"]),
  (defaulted "distro_version" (some "distroVersion"), str),
  (needed "base_distribution" (some "baseDistribution"), .literal ["ubuntu"]),
  (defaulted "base_distribution_version" (some "baseDistributionVersion"), str),
  (optional "pinned_snapshot" (some "pinnedSnapshot"), .str (some datePattern))]

/-- `RecoveryPartition`. -/
def recoveryPartition : ModelTerm := strict [
  (defaulted "enabled", .bool),
  (defaulted "size_mi_b" (some "sizeMiB"), .int 1024)]

/-- `Partitioning`. -/
def partitioning : ModelTerm := strict [
  (defaulted "scheme", .literal ["gpt"]),
  (defaulted "esp_size_mi_b" (some "espSizeMiB"), .int 256),
  (defaulted "recovery_partition" (some "recoveryPartition"), recoveryPartition)]

/-- `Provenance`. -/
def provenance : ModelTerm := strict [
  (defaulted "checksum_algorithm" (some "checksumAlgorithm"), .literal ["sha256", "sha512"])]

/-- `BuildOutput`. -/
def buildOutput : ModelTerm := strict [
  (defaulted "format", .literal ["partclone"]),
  (defaulted "compression", .literal ["none", "gzip", "zstd"])]

/-- `BuilderSpec`. -/
def builderSpec : ModelTerm := strict [
  (needed "base_image" (some "baseImage"), baseImage),
  (needed "partitioning", partitioning),
  (defaulted "provenance", provenance),
  (defaulted "output", buildOutput)]

/-- `Repository`. -/
def repository : ModelTerm := strict [
  (needed "name", str),
  (needed "uri", str),
  (needed "signing_key" (some "signingKey"), str)]

/-- `PackagesSpec`. -/
def packagesSpec : ModelTerm := strict [
  (needed "base", .list 1 str),
  (defaulted "profiles", .dict 0 strList),
  (defaulted "remove", strList),
  (defaulted "repositories", .list 0 repository)]

/-- `Pxe`. -/
def pxe : ModelTerm := strict [
  (defaulted "enabled", .bool),
  (optional "server_address" (some "serverAddress"), str)]

/-- `Multicast`. -/
def multicast : ModelTerm := strict [
  (defaulted "enabled", .bool),
  (defaulted "address_range" (some "addressRange"), str)]

/-- `Transport`. -/
def transport : ModelTerm := strict [(defaulted "pxe", pxe), (defaulted "multicast", multicast)]

/-- `Retry`. -/
def retry : ModelTerm := strict [
  (defaulted "max_attempts" (some "maxAttempts"), .int 0),
  (defaulted "backoff_seconds" (some "backoffSeconds"), .int 0)]

/-- `Session`. -/
def session : ModelTerm := strict [
  (defaulted "reference_classroom_size" (some "referenceClassroomSize"), .int 1),
  (defaulted "timeout_minutes" (some "timeoutMinutes"), .int 1),
  (defaulted "retry", retry)]

/-- `Verification`. -/
def verification : ModelTerm := strict [
  (defaulted "checksum_algorithm" (some "checksumAlgorithm"), .literal ["sha256", "sha512"]),
  (defaulted "on_mismatch" (some "onMismatch"), .literal ["abort-machine", "abort-session"])]

/-- `Reporting`. -/
def reporting : ModelTerm := strict [
  (defaulted "format", .literal ["json", "text"]),
  (defaulted "retention_days" (some "retentionDays"), .int 1)]

/-- `MaintenanceRequests`. -/
def maintenanceRequests : ModelTerm := strict [
  (defaulted "enabled", .bool),
  (defaulted "machine_identity" (some "machineIdentity"),
    .literal ["mac-address", "dmi-uuid", "custom"])]

/-- `DeploySpec`. -/
def deploySpec : ModelTerm := strict [
  (defaulted "transport", transport),
  (defaulted "session", session),
  (defaulted "verification", verification),
  (defaulted "reporting", reporting),
  (defaulted "maintenance_requests" (some "maintenanceRequests"), maintenanceRequests)]

/-- `DefaultProfile`. -/
def defaultProfile : ModelTerm := strict [(defaulted "shell", str), (defaulted "groups", strList)]

/-- `Account`. -/
def account : ModelTerm := strict [
  (needed "name", .str (some accountPattern)),
  (needed "role", .literal ["teacher", "student", "technician"]),
  (defaulted "groups", strList),
  (defaulted "sudo", .bool)]

/-- `Ldap`. -/
def ldap : ModelTerm := strict [
  (optional "uri", str),
  (optional "base_dn" (some "baseDn"), str)]

/-- `Authentication`. -/
def authentication : ModelTerm := strict [
  (defaulted "method", .literal ["local", "ldap", "none"]),
  (optional "ldap", ldap)]

/-- `UsersSession`. -/
def usersSession : ModelTerm := strict [
  (defaulted "autologin", .bool),
  (defaulted "guest_session" (some "guestSession"), .bool)]

/-- `UsersSpec`. -/
def usersSpec : ModelTerm := strict [
  (defaulted "default_profile" (some "defaultProfile"), defaultProfile),
  (defaulted "accounts", .list 0 account),
  (defaulted "authentication", authentication),
  (defaulted "session", usersSession)]

/-- `Proxy`. -/
def proxy : ModelTerm := strict [
  (optional "http", str),
  (optional "https", str),
  (defaulted "no_proxy" (some "noProxy"), strList)]

/-- `StaticAssignment`. -/
def staticAssignment : ModelTerm := strict [
  (needed "hostname", str),
  (needed "mac", .str (some macPattern)),
  (needed "ip", str)]

/-- `Addressing`. -/
def addressing : ModelTerm := strict [
  (defaulted "mode", .literal ["dhcp", "static"]),
  (defaulted "static_assignments" (some "staticAssignments"), .list 0 staticAssignment)]

/-- `NetworkSpec`. -/
def networkSpec : ModelTerm := strict [
  (defaulted "hostname_pattern" (some "hostnamePattern"), str),
  (optional "domain", str),
  (defaulted "dns", strList),
  (optional "proxy", proxy),
  (defaulted "addressing", addressing)]

/-- `LocalizationSpec`. -/
def localizationSpec : ModelTerm := strict [
  (defaulted "default_locale" (some "defaultLocale"), .literal ["ca_ES", "es_ES"]),
  (defaulted "supported_locales" (some "supportedLocales"),
    .list 0 (.literal ["ca_ES", "es_ES", "en_US"])),
  (defaulted "timezone", str),
  (defaulted "keyboard_layout" (some "keyboardLayout"), str)]

/-- `SecureBoot`. -/
def secureBoot : ModelTerm := strict [
  (defaulted "mode", .literal ["enforce", "permissive", "disabled"])]

/-- `Credentials`. -/
def credentials : ModelTerm := strict [
  (defaulted "embed_shared_credentials" (some "embedSharedCredentials"), .literalFalse)]

/-- `Updates`. -/
def updates : ModelTerm := strict [
  (defaulted "auto_security_updates" (some "autoSecurityUpdates"), .bool)]

/-- `ImageSigning`. -/
def imageSigning : ModelTerm := strict [
  (defaulted "enabled", .bool),
  (optional "key_ref" (some "keyRef"), str)]

/-- `NetworkTrust`. -/
def networkTrust : ModelTerm := strict [
  (defaulted "allowed_deploy_servers" (some "allowedDeployServers"), strList)]

/-- `SecuritySpec`. -/
def securitySpec : ModelTerm := strict [
  (defaulted "secure_boot" (some "secureBoot"), secureBoot),
  (defaulted "credentials", credentials),
  (defaulted "updates", updates),
  (defaulted "image_signing" (some "imageSigning"), imageSigning),
  (defaulted "network_trust" (some "networkTrust"), networkTrust)]

/-- `ClassroomSpec`, which may have extensions. -/
def classroomSpec : ModelTerm := extensible [
  (needed "project", projectSpec),
  (optional "branding", brandingSpec),
  (needed "boot_manager" (some "bootManager"), bootManagerSpec),
  (needed "builder", builderSpec),
  (needed "packages", packagesSpec),
  (needed "deploy", deploySpec),
  (optional "users", usersSpec),
  (needed "network", networkSpec),
  (needed "localization", localizationSpec),
  (needed "security", securitySpec),
  (defaulted "extensions", .dict 0 .any)]

/-- The model of a document (`ClassroomConfig`). -/
def classroomConfig : ModelTerm := extensible [
  (needed "api_version" (some "apiVersion"), .literal ["bcs/v1alpha1"]),
  (needed "kind", .literal ["ClassroomConfig"]),
  (needed "metadata", metadata),
  (needed "spec", classroomSpec)]

end ClassroomModels

/-! ### The difference -/

/-- The models mirror the schema. -/
theorem classroomModels_mirror :
    mirrors ClassroomSchema.classroomConfig ClassroomModels.classroomConfig = true := by
  decide +kernel

variable (rt : FormatRuntime)

/-- A document that the schema accepts is accepted by the models, unless they are stricter about it;
a document that the models accept is accepted by the schema, unless they are more lenient. -/
theorem formats_differ_exactly (document : Json) :
    (ClassroomSchema.classroomConfig.accepts rt document = true →
      (ClassroomModels.classroomConfig.accepts rt document = true ↔
        ¬ StrictAbout rt ClassroomSchema.classroomConfig ClassroomModels.classroomConfig
            document)) ∧
    (ClassroomModels.classroomConfig.accepts rt document = true →
      (ClassroomSchema.classroomConfig.accepts rt document = true ↔
        ¬ LenientAbout rt ClassroomSchema.classroomConfig ClassroomModels.classroomConfig
            document)) :=
  have h : AgreeOn rt ClassroomSchema.classroomConfig ClassroomModels.classroomConfig document :=
    agree_of_mirrors _ _ classroomModels_mirror document
  ⟨h.model_iff, h.schema_iff⟩

/-- A document with nothing but what the schema requires. -/
def smallestDocument : Json :=
  .obj [("apiVersion", .str "bcs/v1alpha1"), ("kind", .str "ClassroomConfig"),
    ("metadata", .obj [("name", .str "aula-201")]),
    ("spec", .obj [
      ("project", .obj [("displayName", .str "Aula 201"), ("centre", .str "CIPFP Batoi")]),
      ("bootManager", .obj [("menu", .obj [("defaultEntry", .str "linux"),
        ("entries", .arr [.obj [("id", .str "linux"), ("label", .obj [("es_ES", .str "Linux")]),
          ("action", .str "boot-installed-os")]])])]),
      ("builder", .obj [
        ("baseImage", .obj [("distro", .str "lliurex"), ("distroVersion", .str "23"),
          ("baseDistribution", .str "ubuntu"), ("baseDistributionVersion", .str "24.04")]),
        ("partitioning", .obj [("espSizeMiB", .int 512)])]),
      ("packages", .obj [("base", .arr [.str "lliurex-meta"])]),
      ("deploy", .obj [("transport", .obj []), ("session", .obj [])]),
      ("network", .obj [("addressing", .obj [("mode", .str "dhcp")])]),
      ("localization", .obj [("defaultLocale", .str "ca_ES")]),
      ("security", .obj [("secureBoot", .obj [("mode", .str "enforce")]),
        ("credentials", .obj [])])])]

example : ClassroomSchema.classroomConfig.accepts
    ⟨plainLaxRuntime, fun _ _ => true, fun _ _ => true, fun _ _ => true⟩ smallestDocument =
      true := by
  decide +kernel

end ClassroomSuite.Config
