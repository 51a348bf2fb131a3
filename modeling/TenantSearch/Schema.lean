/-! The schema of the database that holds the records: one section of SQL for each table. -/
namespace TenantSearch.Schema

def extensions : List String := ["CREATE EXTENSION IF NOT EXISTS pgcrypto;"]

def leads : List String := [
  "CREATE TABLE IF NOT EXISTS leads (",
  "\tid uuid PRIMARY KEY DEFAULT gen_random_uuid(),",
  "\torganization_id uuid NOT NULL,",
  "\tconsumer_first_name text NOT NULL DEFAULT '',",
  "\tconsumer_last_name text NOT NULL DEFAULT '',",
  "\tconsumer_email text NULL,",
  "\tconsumer_phone text NULL,",
  "\taddress_city text NULL,",
  "\tcreated_at timestamptz NOT NULL DEFAULT now(),",
  "\tdeleted_at timestamptz NULL",
  ");",
  "CREATE INDEX IF NOT EXISTS idx_leads_organization",
  "\tON leads (organization_id)",
  "\tWHERE deleted_at IS NULL;"]

def leadNotes : List String := [
  "CREATE TABLE IF NOT EXISTS lead_notes (",
  "\tid uuid PRIMARY KEY DEFAULT gen_random_uuid(),",
  "\torganization_id uuid NOT NULL,",
  "\tlead_id uuid NOT NULL REFERENCES leads(id) ON DELETE CASCADE,",
  "\tbody text NOT NULL,",
  "\tcreated_at timestamptz NOT NULL DEFAULT now()",
  ");",
  "CREATE INDEX IF NOT EXISTS idx_lead_notes_organization_lead",
  "\tON lead_notes (organization_id, lead_id);"]

def leadServices : List String := [
  "CREATE TABLE IF NOT EXISTS lead_services (",
  "\tid uuid PRIMARY KEY DEFAULT gen_random_uuid(),",
  "\torganization_id uuid NOT NULL,",
  "\tlead_id uuid NOT NULL REFERENCES leads(id) ON DELETE CASCADE,",
  "\tservice_type_id uuid NULL,",
  "\tconsumer_note text NULL,",
  "\tcreated_at timestamptz NOT NULL DEFAULT now()",
  ");",
  "CREATE INDEX IF NOT EXISTS idx_lead_services_organization_lead",
  "\tON lead_services (organization_id, lead_id);"]

def quotes : List String := [
  "CREATE TABLE IF NOT EXISTS quotes (",
  "\tid uuid PRIMARY KEY DEFAULT gen_random_uuid(),",
  "\torganization_id uuid NOT NULL,",
  "\tlead_id uuid NOT NULL REFERENCES leads(id) ON DELETE CASCADE,",
  "\tquote_number text NOT NULL,",
  "\tnotes text NULL,",
  "\ttotal_cents bigint NOT NULL DEFAULT 0,",
  "\tstatus text NOT NULL DEFAULT 'draft',",
  "\tcreated_at timestamptz NOT NULL DEFAULT now()",
  ");",
  "CREATE INDEX IF NOT EXISTS idx_quotes_organization_lead",
  "\tON quotes (organization_id, lead_id);"]

def partners : List String := [
  "CREATE TABLE IF NOT EXISTS partners (",
  "\tid uuid PRIMARY KEY DEFAULT gen_random_uuid(),",
  "\torganization_id uuid NOT NULL,",
  "\tbusiness_name text NOT NULL,",
  "\tcontact_name text NULL,",
  "\tcontact_email text NULL,",
  "\taddress_line text NULL,",
  "\tpostal_code text NULL,",
  "\tcity text NULL,",
  "\tcreated_at timestamptz NOT NULL DEFAULT now()",
  ");",
  "CREATE INDEX IF NOT EXISTS idx_partners_organization",
  "\tON partners (organization_id);"]

def partnerLeads : List String := [
  "CREATE TABLE IF NOT EXISTS partner_leads (",
  "\torganization_id uuid NOT NULL,",
  "\tpartner_id uuid NOT NULL REFERENCES partners(id) ON DELETE CASCADE,",
  "\tlead_id uuid NOT NULL REFERENCES leads(id) ON DELETE CASCADE,",
  "\tcreated_at timestamptz NOT NULL DEFAULT now(),",
  "\tPRIMARY KEY (partner_id, lead_id)",
  ");",
  "CREATE INDEX IF NOT EXISTS idx_partner_leads_organization",
  "\tON partner_leads (organization_id);"]

def appointments : List String := [
  "CREATE TABLE IF NOT EXISTS appointments (",
  "\tid uuid PRIMARY KEY DEFAULT gen_random_uuid(),",
  "\torganization_id uuid NOT NULL,",
  "\tlead_id uuid NULL REFERENCES leads(id) ON DELETE SET NULL,",
  "\ttitle text NOT NULL,",
  "\tdescription text NULL,",
  "\tlocation text NULL,",
  "\tstart_time timestamptz NOT NULL,",
  "\tstatus text NOT NULL DEFAULT 'scheduled',",
  "\tcreated_at timestamptz NOT NULL DEFAULT now()",
  ");",
  "CREATE INDEX IF NOT EXISTS idx_appointments_organization",
  "\tON appointments (organization_id);"]

def catalogProducts : List String := [
  "CREATE TABLE IF NOT EXISTS catalog_products (",
  "\tid uuid PRIMARY KEY DEFAULT gen_random_uuid(),",
  "\torganization_id uuid NOT NULL,",
  "\ttitle text NOT NULL,",
  "\treference text NULL,",
  "\tdescription text NULL,",
  "\tcreated_at timestamptz NOT NULL DEFAULT now()",
  ");",
  "CREATE INDEX IF NOT EXISTS idx_catalog_products_organization",
  "\tON catalog_products (organization_id);"]

def serviceTypes : List String := [
  "CREATE TABLE IF NOT EXISTS service_types (",
  "\tid uuid PRIMARY KEY DEFAULT gen_random_uuid(),",
  "\torganization_id uuid NOT NULL,",
  "\tname text NOT NULL,",
  "\tslug text NOT NULL,",
  "\tdescription text NULL,",
  "\tis_active boolean NOT NULL DEFAULT true,",
  "\tcreated_at timestamptz NOT NULL DEFAULT now(),",
  "\tUNIQUE (organization_id, slug)",
  ");"]

def sections : List (List String) :=
  [extensions, leads, leadNotes, leadServices, quotes, partners,
    partnerLeads, appointments, catalogProducts, serviceTypes]

def render (lines : List String) : String := String.join (lines.map (· ++ "\n")) ++ "\n"

def sql : String := String.join (sections.map render)

end TenantSearch.Schema
