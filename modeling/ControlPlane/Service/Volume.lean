import ControlPlane.Reference

namespace ControlPlane.Volume

def fields : List Field :=
  [ .as (.plain "attachments") .list,
    .plain "availability_zone",
    .timestamp "created_at" "created_at",
    .plain "description",
    .renamed "image_id" "imageRef",
    .as (.renamed "is_bootable" "bootable") (.format .boolText),
    .as (.renamed "is_encrypted" "encrypted") .boolean,
    .as (.plain "metadata") .dict,
    .plain "migration_status",
    .as (.plain "size") .integer,
    .plain "snapshot_id",
    .renamed "source_volume_id" "source_volid",
    .plain "status",
    .timestamp "updated_at" "updated_at",
    .plain "volume_type" ]

def schema : Schema :=
  { kind := "volume.volume", service := "volume", basePath := "/volumes"
    resourceKey := some "volume", resourcesKey := some "volumes"
    query := (QueryMapping.ofNames ["name", "status", "project_id"]).rename
      "all_projects" "all_tenants"
    fields := FieldTable.merge FieldTable.base fields }

variable {σ : Type}

def extend (s : Session σ) (ref : Reference) (size : Nat) (c : Conversation σ) :
    Except Error Unit × Conversation σ :=
  ref.act s schema .post "action"
    (some (.record [("os-extend", .record [("new_size", .integer size)])])) c

end ControlPlane.Volume
