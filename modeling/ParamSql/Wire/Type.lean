/-!
# Types of the database

A type is one of those that every database has, or one that a database
defines: a simple type, an array, a domain over another type or an
enumeration.  A defined type is never equal to a built-in one, whatever its
name.
-/

namespace ParamSql

/-- Types that every database has: those that a value is sent as, and some that
no value is sent as. -/
inductive BuiltinType where
  | bool
  | bytea
  | char
  | name
  | int8
  | int2
  | int2vector
  | int4
  | text
  | oid
  | oidvector
  | json
  | xml
  | jsonArray
  | float4
  | float8
  | unknown
  | money
  | inet
  | boolArray
  | byteaArray
  | nameArray
  | int2Array
  | int4Array
  | textArray
  | bpcharArray
  | varcharArray
  | int8Array
  | float4Array
  | float8Array
  | oidArray
  | bpchar
  | varchar
  | date
  | time
  | timestamp
  | dateArray
  | timestamptz
  | interval
  | numeric
  | record
  | uuid
  | uuidArray
  | jsonb
  | jsonbArray
  | int4range
  | jsonpath
  deriving DecidableEq, Repr

namespace BuiltinType

/-- Every built-in type, in ascending order of the identifiers. -/
def all : List BuiltinType := [
  .bool, .bytea, .char, .name, .int8, .int2, .int2vector, .int4, .text, .oid, .oidvector,
  .json, .xml, .jsonArray, .float4, .float8, .unknown, .money, .inet, .boolArray,
  .byteaArray, .nameArray, .int2Array, .int4Array, .textArray, .bpcharArray, .varcharArray,
  .int8Array, .float4Array, .float8Array, .oidArray, .bpchar, .varchar, .date, .time,
  .timestamp, .dateArray, .timestamptz, .interval, .numeric, .record, .uuid, .uuidArray,
  .jsonb, .jsonbArray, .int4range, .jsonpath]

/-- The name of a type; that of an array starts with an underscore. -/
def catalogName : BuiltinType → String
  | bool => "bool"
  | bytea => "bytea"
  | char => "char"
  | name => "name"
  | int8 => "int8"
  | int2 => "int2"
  | int2vector => "int2vector"
  | int4 => "int4"
  | text => "text"
  | oid => "oid"
  | oidvector => "oidvector"
  | json => "json"
  | xml => "xml"
  | jsonArray => "_json"
  | float4 => "float4"
  | float8 => "float8"
  | unknown => "unknown"
  | money => "money"
  | inet => "inet"
  | boolArray => "_bool"
  | byteaArray => "_bytea"
  | nameArray => "_name"
  | int2Array => "_int2"
  | int4Array => "_int4"
  | textArray => "_text"
  | bpcharArray => "_bpchar"
  | varcharArray => "_varchar"
  | int8Array => "_int8"
  | float4Array => "_float4"
  | float8Array => "_float8"
  | oidArray => "_oid"
  | bpchar => "bpchar"
  | varchar => "varchar"
  | date => "date"
  | time => "time"
  | timestamp => "timestamp"
  | dateArray => "_date"
  | timestamptz => "timestamptz"
  | interval => "interval"
  | numeric => "numeric"
  | record => "record"
  | uuid => "uuid"
  | uuidArray => "_uuid"
  | jsonb => "jsonb"
  | jsonbArray => "_jsonb"
  | int4range => "int4range"
  | jsonpath => "jsonpath"

/-- The object identifier of a type. -/
def catalogOid : BuiltinType → UInt32
  | bool => 16
  | bytea => 17
  | char => 18
  | name => 19
  | int8 => 20
  | int2 => 21
  | int2vector => 22
  | int4 => 23
  | text => 25
  | oid => 26
  | oidvector => 30
  | json => 114
  | xml => 142
  | jsonArray => 199
  | float4 => 700
  | float8 => 701
  | unknown => 705
  | money => 790
  | inet => 869
  | boolArray => 1000
  | byteaArray => 1001
  | nameArray => 1003
  | int2Array => 1005
  | int4Array => 1007
  | textArray => 1009
  | bpcharArray => 1014
  | varcharArray => 1015
  | int8Array => 1016
  | float4Array => 1021
  | float8Array => 1022
  | oidArray => 1028
  | bpchar => 1042
  | varchar => 1043
  | date => 1082
  | time => 1083
  | timestamp => 1114
  | dateArray => 1182
  | timestamptz => 1184
  | interval => 1186
  | numeric => 1700
  | record => 2249
  | uuid => 2950
  | uuidArray => 2951
  | jsonb => 3802
  | jsonbArray => 3807
  | int4range => 3904
  | jsonpath => 4072

/-- The type of the elements of an array. -/
def element? : BuiltinType → Option BuiltinType
  | int2vector => some .int2
  | oidvector => some .oid
  | jsonArray => some .json
  | boolArray => some .bool
  | byteaArray => some .bytea
  | nameArray => some .name
  | int2Array => some .int2
  | int4Array => some .int4
  | textArray => some .text
  | bpcharArray => some .bpchar
  | varcharArray => some .varchar
  | int8Array => some .int8
  | float4Array => some .float4
  | float8Array => some .float8
  | oidArray => some .oid
  | dateArray => some .date
  | uuidArray => some .uuid
  | jsonbArray => some .jsonb
  | _ => none

/-- The type with a name. -/
def ofName? (name : String) : Option BuiltinType :=
  all.find? fun type => type.catalogName = name

end BuiltinType

/-- How a defined type is called. -/
structure TypeName where
  schema : String
  name : String
  oid : UInt32
  deriving DecidableEq, Repr

/-- A type of a database.  `simple` stands also for the kinds that have no case
of their own (ranges, composite and pseudo types) and for the built-in types
that are not listed above, other than arrays: of these nothing but the name, the
schema and the number is looked at. -/
inductive WireType where
  | builtin (type : BuiltinType)
  | simple (name : TypeName)
  | array (name : TypeName) (element : WireType)
  | domain (name : TypeName) (base : WireType)
  | enumeration (name : TypeName) (labels : List String)
  deriving Repr

namespace WireType

/-- The name without the schema. -/
def name : WireType → String
  | builtin type => type.catalogName
  | simple name => name.name
  | array name _ => name.name
  | domain name _ => name.name
  | enumeration name _ => name.name

/-- The schema; built-in types are in the catalog. -/
def schema : WireType → String
  | builtin _ => "pg_catalog"
  | simple name => name.schema
  | array name _ => name.schema
  | domain name _ => name.schema
  | enumeration name _ => name.schema

/-- The object identifier. -/
def oid : WireType → UInt32
  | builtin type => type.catalogOid
  | simple name => name.oid
  | array name _ => name.oid
  | domain name _ => name.oid
  | enumeration name _ => name.oid

/-- The type of the elements, if the type is an array. -/
def element? : WireType → Option WireType
  | builtin type => type.element?.map .builtin
  | array _ element => some element
  | _ => none

/-- The built-in type that a type is. -/
def builtin? : WireType → Option BuiltinType
  | builtin type => some type
  | _ => none

/-- Whether a type is a given built-in type. -/
def isBuiltin (type : WireType) (expected : BuiltinType) : Bool :=
  type.builtin? = some expected

/-- The name as messages show it: with the schema, unless that is the public
one or the catalog. -/
def display (type : WireType) : String :=
  if type.schema = "public" ∨ type.schema = "pg_catalog" then type.name
  else type.schema ++ "." ++ type.name

end WireType

end ParamSql
