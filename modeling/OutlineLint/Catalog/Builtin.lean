import OutlineLint.Catalog.Sheet

/-!
# The built-in catalog

The catalog that is used unless another one is given.
-/

namespace OutlineLint.Catalog

/-- The rows of the built-in catalog. -/
def builtinSheet : Sheet where
  outputRoot := none
  standardsDoc := none
  rows := [
    { kind := "requirements"
      fileName := "01-requirements.md"
      template := ".github/templates/01-requirements.template.md"
      agent := some ".github/agents/project-planner.agent.md"
      required := [
        "## Project Overview",
        "## Functional Requirements",
        "## Non-Functional Requirements (NFRs)",
        "## Compliance & Security Requirements",
        "## Cost Constraints",
        "## Operational Requirements",
        "## Regional Preferences"]
      optional := ["## Summary for Architecture Assessment"] },
    { kind := "architecture-assessment"
      fileName := "02-architecture-assessment.md"
      template := ".github/templates/02-architecture-assessment.template.md"
      agent := some ".github/agents/azure-principal-architect.agent.md"
      required := [
        "## Requirements Validation ✅",
        "## Executive Summary",
        "## WAF Pillar Assessment",
        "## Resource SKU Recommendations",
        "## Architecture Decision Summary",
        "## Implementation Handoff",
        "## Approval Gate"]
      optional := [] },
    { kind := "implementation-plan"
      fileName := "04-implementation-plan.md"
      template := ".github/templates/04-implementation-plan.template.md"
      agent := some ".github/agents/bicep-plan.agent.md"
      required := [
        "## Overview",
        "## Resource Inventory",
        "## Module Structure",
        "## Implementation Tasks",
        "## Dependency Graph",
        "## Naming Conventions",
        "## Security Configuration",
        "## Estimated Implementation Time",
        "## Approval Gate"]
      optional := [] },
    { kind := "deployment-summary"
      fileName := "06-deployment-summary.md"
      template := ".github/templates/06-deployment-summary.template.md"
      agent := none
      required := [
        "## Deployment Details",
        "## Deployed Resources",
        "## Outputs (Expected)",
        "## To Actually Deploy",
        "## Post-Deployment Tasks"]
      optional := [] }]

/-- The built-in catalog, or the problems of its sheet. -/
def builtin : Except (List Problem) Catalog := builtinSheet.catalog

end OutlineLint.Catalog
