import FilterQuery.Access.Enumerations
import FilterQuery.Entity.Model

namespace FilterQuery.Access

/-!
# Models of access control

Users belong to access controls (roles, groups and scopes), access controls hold
permissions and stand in a tree, and permissions may be limited to a library.  The last
of these models, and the effective permissions of users, read views.
-/

/-- Users. -/
def user : Model where
  name := "User"
  table := "users"
  defaultSort := "login"
  own := [.identifier "id" "usr_id", (Attribute.text "email" "email").orAbsent,
    .text "login" "login", (Attribute.text "name" "name").orAbsent,
    (Attribute.text "picture" "picture").orAbsent]
  audited := true

/-- Roles, groups and scopes. -/
def accessControl : Model where
  name := "AccessControl"
  table := "access_controls"
  defaultSort := "name"
  own := [.identifier "id" "aco_id", .text "name" "name", .member "type" "type" accessControlType]
  audited := true

/-- Permissions. -/
def permission : Model where
  name := "Permission"
  table := "permissions"
  defaultSort := "entity"
  own := [.identifier "id" "per_id", .member "entity" "entity" entityPermission,
    .member "action" "action" actionPermission,
    (Attribute.identifier "libraryId" "lib_id").orAbsent]
  audited := true

/-- Effective permissions of users. -/
def userPermission : Model where
  name := "UserPermission"
  table := "users_permissions_view"
  defaultSort := "usp_id"
  own := [.token "id" "usp_id", .identifier "userId" "usr_id", .identifier "permissionId" "per_id",
    .member "entity" "entity" entityPermission, .member "action" "action" actionPermission,
    (Attribute.identifier "libraryId" "lib_id").orAbsent]
  audited := true

/-- Permissions granted to access controls. -/
def accessControlPermission : Model where
  name := "AccessControlPermission"
  table := "access_controls_permissions"
  defaultSort := "pac_id"
  own := [.filtered "id" "pac_id" .integer .number, .identifier "accessControlId" "aco_id",
    .identifier "permissionId" "per_id"]
  audited := true

/-- Libraries. -/
def library : Model where
  name := "Library"
  table := "libraries"
  defaultSort := "name"
  own := [.identifier "id" "lib_id", (Attribute.text "url" "url").orAbsent,
    (Attribute.text "documentationUrl" "documentation_url").orAbsent, .text "name" "name",
    .text "version" "version", (Attribute.text "maintainer" "maintainer").orAbsent,
    (Attribute.text "description" "description").orAbsent,
    (Attribute.hidden "icon" "icon" .text).orAbsent]
  audited := true

/-- Templates of libraries. -/
def libraryTemplate : Model where
  name := "LibraryTemplate"
  table := "library_templates"
  defaultSort := "name"
  own := [.identifier "id" "lit_id", .identifier "libraryId" "lib_id",
    (Attribute.text "documentationUrl" "documentation_url").orAbsent, .text "name" "name",
    .member "type" "type" libraryTemplateType,
    (Attribute.text "description" "description").orAbsent,
    (Attribute.hidden "basePath" "base_path" .text).orAbsent,
    (Attribute.text "plugins" "plugins").orAbsent,
    (Attribute.hidden "icon" "icon" .text).orAbsent]
  audited := true

/-- Links between access controls, direct or over others. -/
def accessControlTree : Model where
  name := "AccessControlTreeView"
  table := "access_controls_tree_view"
  defaultSort := "name"
  own := [.token "id" "aca_id", .identifier "accessControlId" "aco_id",
    .text "accessControlType" "type", .text "accessControlName" "name",
    .identifier "parentAccessControlId" "parent", .text "parentAccessControlName" "parent_name",
    .text "parentAccessControlType" "parent_type", .filtered "isDirect" "direct" .boolean .boolean]
  audited := false

/-- Access controls that users belong to. -/
def userAccessControl : Model where
  name := "UserAccessControlView"
  table := "users_access_controls_view"
  defaultSort := "usa_id"
  own := [.token "id" "usa_id", .identifier "userId" "usr_id",
    (Attribute.text "email" "email").orAbsent, .text "login" "login",
    (Attribute.text "userName" "user_name").orAbsent, .identifier "accessControlId" "aco_id",
    .text "accessControlName" "access_control_name",
    (Attribute.member "accessControlType" "type" accessControlType).filteredAs "type"]
  audited := false

/-- The shape that the audited models end with. -/
def auditShape : EntityShape := .ofAttributes "AuditFields" auditAttributes

/-- The entities that clients can ask for. -/
inductive EntityKind where
  | user
  | accessControl
  | permission
  | userPermission
  | accessControlPermission
  | library
  | libraryTemplate
  | accessControlTree
  | userAccessControl
  deriving DecidableEq, Repr

namespace EntityKind

/-- All entities, in the order in which they are listed. -/
def every : List EntityKind :=
  [.user, .accessControl, .permission, .userPermission, .accessControlPermission, .library,
    .libraryTemplate, .accessControlTree, .userAccessControl]

/-- The model of an entity. -/
def model : EntityKind → Model
  | .user => Access.user
  | .accessControl => Access.accessControl
  | .permission => Access.permission
  | .userPermission => Access.userPermission
  | .accessControlPermission => Access.accessControlPermission
  | .library => Access.library
  | .libraryTemplate => Access.libraryTemplate
  | .accessControlTree => Access.accessControlTree
  | .userAccessControl => Access.userAccessControl

/-- The name of an entity on the command line. -/
def argument : EntityKind → String
  | .user => "users"
  | .accessControl => "access-controls"
  | .permission => "permissions"
  | .userPermission => "user-permissions"
  | .accessControlPermission => "access-control-permissions"
  | .library => "libraries"
  | .libraryTemplate => "library-templates"
  | .accessControlTree => "access-control-tree"
  | .userAccessControl => "user-access-controls"

/-- The entity with the given name on the command line. -/
def ofArgument? (name : String) : Option EntityKind := every.find? fun k => k.argument == name

theorem mem_every (k : EntityKind) : k ∈ every := by cases k <;> simp [every]

/-- An entity is found under its name. -/
@[simp] theorem ofArgument?_argument (k : EntityKind) : ofArgument? k.argument = some k := by
  cases k <;> rfl

end EntityKind

end FilterQuery.Access
