import FilterQuery.Filter.Field

namespace FilterQuery.Access

/-!
# Enumerations of access control

`registry` lists the enumerations that are filtered strictly.  The types of library
templates are not among them.
-/

/-- The kinds of access controls. -/
def accessControlType : Enumeration where
  typeName := "AccessControlType"
  members := [⟨"Role", "ROLE"⟩, ⟨"Group", "GROUP"⟩, ⟨"Scope", "SCOPE"⟩]

/-- What a permission applies to. -/
def entityPermission : Enumeration where
  typeName := "EntityPermission"
  members := [⟨"Admin", "ADMIN"⟩, ⟨"Project", "PROJECT"⟩, ⟨"ProjectTemplate", "PROJECT_TEMPLATE"⟩,
    ⟨"Diagram", "DIAGRAM"⟩, ⟨"DiagramTemplate", "DIAGRAM_TEMPLATE"⟩, ⟨"Component", "COMPONENT"⟩,
    ⟨"ComponentTemplate", "COMPONENT_TEMPLATE"⟩, ⟨"Library", "LIBRARY"⟩]

/-- What a permission allows. -/
def actionPermission : Enumeration where
  typeName := "ActionPermission"
  members := [⟨"Access", "ACCESS"⟩, ⟨"Create", "CREATE"⟩, ⟨"Delete", "DELETE"⟩,
    ⟨"Update", "UPDATE"⟩]

/-- The kinds of library templates. -/
def libraryTemplateType : Enumeration where
  typeName := "LibraryTemplateType"
  members := [⟨"Project", "PROJECT"⟩, ⟨"Diagram", "DIAGRAM"⟩, ⟨"Component", "COMPONENT"⟩]

/-- All enumerations of the domain. -/
def enumerations : List Enumeration :=
  [accessControlType, entityPermission, actionPermission, libraryTemplateType]

/-- The enumerations that are filtered strictly. -/
def registry : Registry := .ofList [accessControlType, entityPermission, actionPermission]

end FilterQuery.Access
