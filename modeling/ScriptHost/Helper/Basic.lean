/-!
# Helpers

Rewritten code calls functions for what older editions of the language cannot
say. A compiled file brings along those that it calls.

- `Helper`: the functions.
- `Helper.all`: the order in which they are written.
- `Helper.name`: their names in a compiled file.
-/

namespace ScriptHost

/-- The functions that a compiled file may bring along. -/
inductive Helper where
  /-- It copies the first elements of something with a length. -/
  | arrayLikeToArray
  /-- It passes an array on. -/
  | arrayWithHoles
  /-- It copies an array. -/
  | arrayWithoutHoles
  /-- It refuses `this` before the base class made it. -/
  | assertThisInitialized
  /-- It answers the requests to an asynchronous generator in their order. -/
  | asyncGenerator
  /-- It passes the steps of an asynchronous iteration on. -/
  | asyncGeneratorDelegate
  /-- It starts an asynchronous iteration. -/
  | asyncIterator
  /-- It runs a generator whose values are awaited. -/
  | asyncToGenerator
  /-- It marks what an asynchronous generator awaits. -/
  | awaitAsyncGenerator
  /-- It holds what an asynchronous generator awaits. -/
  | awaitValue
  /-- It calls the constructor of the base class. -/
  | callSuper
  /-- It refuses a private member that is there. -/
  | checkPrivateRedeclaration
  /-- It makes a private member a place to be assigned. -/
  | classApplyDescriptorDestructure
  /-- It reads a private member. -/
  | classApplyDescriptorGet
  /-- It writes a private member. -/
  | classApplyDescriptorSet
  /-- It makes a private member a place to be read and written. -/
  | classApplyDescriptorUpdate
  /-- It refuses a class that is called without `new`. -/
  | classCallCheck
  /-- It refuses a private static field that is not there yet. -/
  | classCheckPrivateStaticDescriptor
  /-- It finds a private member. -/
  | classExtractFieldDescriptor
  /-- It reads a private field. -/
  | classPrivateFieldGet
  /-- It makes a private field. -/
  | classPrivateFieldInit
  /-- It writes a private field. -/
  | classPrivateFieldSet
  /-- It changes a private field by one. -/
  | classPrivateFieldUpdate
  /-- It lets a pattern write a private field. -/
  | classPrivateFieldDestructure
  /-- It reads a private method. -/
  | classPrivateMethodGet
  /-- It makes a private method. -/
  | classPrivateMethodInit
  /-- It reads a private static field. -/
  | classStaticPrivateFieldGet
  /-- It writes a private static field. -/
  | classStaticPrivateFieldSet
  /-- It changes a private static field by one. -/
  | classStaticPrivateFieldUpdate
  /-- It lets a pattern write a private static field. -/
  | classStaticPrivateFieldDestructure
  /-- It reads a private static method. -/
  | classStaticPrivateMethodGet
  /-- It refuses a private member of another class. -/
  | classCheckPrivateStaticAccess
  /-- It calls a constructor with the items of an array. -/
  | construct
  /-- It defines the members of a class. -/
  | createClass
  /-- It defines accessors of an object. -/
  | defineEnumerableProperties
  /-- It defines a property. -/
  | defineProperty
  /-- It exports what another module exports. -/
  | exportStar
  /-- It copies the properties of objects into one that is given. -/
  | assignAll
  /-- It reads a property of the base class. -/
  | superGet
  /-- It finds the base of an object. -/
  | getPrototypeOf
  /-- It makes a class the base of another one. -/
  | inherits
  /-- It tests for instances of a class. -/
  | instanceOf
  /-- It passes a module on whose default is wanted. -/
  | interopRequireDefault
  /-- It passes a module on whose names are wanted. -/
  | interopRequireWildcard
  /-- It tells whether a function is one of the platform. -/
  | isNativeFunction
  /-- It collects what can be iterated. -/
  | iterableToArray
  /-- It collects the first values of an iteration. -/
  | iterableToArrayLimit
  /-- It refuses to take something apart. -/
  | nonIterableRest
  /-- It refuses to spread something. -/
  | nonIterableSpread
  /-- It refuses to take nothing apart. -/
  | objectDestructuringEmpty
  /-- It copies the properties of objects into one. -/
  | objectSpread
  /-- It defines the properties of an object on another. -/
  | objectSpreadProps
  /-- It copies an object but for some properties. -/
  | objectWithoutProperties
  /-- It copies an object but for some keys. -/
  | objectWithoutPropertiesLoose
  /-- It chooses what a constructor made. -/
  | possibleConstructorReturn
  /-- It refuses to write what can only be read. -/
  | readOnlyError
  /-- It writes a property of the base class. -/
  | superSet
  /-- It makes an object the base of another one. -/
  | setPrototypeOf
  /-- It takes the first values of an iteration. -/
  | slicedToArray
  /-- It finds the object that has a property. -/
  | superPropBase
  /-- It makes the pieces of a tagged template. -/
  | taggedTemplateLiteral
  /-- It collects the values of an iteration. -/
  | toArray
  /-- It copies the values of an iteration. -/
  | toConsumableArray
  /-- It makes a value one that is no object. -/
  | toPrimitive
  /-- It makes a value the key of a property. -/
  | toPropertyKey
  /-- It makes a property of the base class a place to be read and written. -/
  | superUpdate
  /-- It names the type of a value. -/
  | typeOf
  /-- It collects what has a length. -/
  | unsupportedIterableToArray
  /-- It makes an asynchronous generator of a generator. -/
  | wrapAsyncGenerator
  /-- It makes a class of the platform one that can be extended. -/
  | wrapNativeSuper
  /-- It refuses to read what can only be written. -/
  | writeOnlyError
  /-- It tells whether classes can be extended. -/
  | isNativeReflectConstruct
  /-- It decorates a class or one of its members. -/
  | tsDecorate
  /-- It runs the pieces of a generator. -/
  | tsGenerator
  /-- It notes a type. -/
  | tsMetadata
  /-- It decorates a parameter. -/
  | tsParam
  /-- It starts an iteration. -/
  | tsValues
  /-- It decorates a class and its members. -/
  | applyDecorators
  /-- It passes a class on. -/
  | identity
deriving BEq, DecidableEq, Repr, Inhabited

namespace Helper

/-- All helpers, in the order in which they are written. -/
def all : List Helper :=
  [arrayLikeToArray, arrayWithHoles, arrayWithoutHoles, assertThisInitialized, asyncGenerator,
   asyncGeneratorDelegate, asyncIterator, asyncToGenerator, awaitAsyncGenerator, awaitValue,
   callSuper, checkPrivateRedeclaration, classApplyDescriptorDestructure,
   classApplyDescriptorGet, classApplyDescriptorSet, classApplyDescriptorUpdate,
   classCallCheck, classCheckPrivateStaticDescriptor, classExtractFieldDescriptor,
   classPrivateFieldGet, classPrivateFieldInit, classPrivateFieldSet, classPrivateFieldUpdate,
   classPrivateFieldDestructure, classPrivateMethodGet, classPrivateMethodInit,
   classStaticPrivateFieldGet, classStaticPrivateFieldSet, classStaticPrivateFieldUpdate,
   classStaticPrivateFieldDestructure, classStaticPrivateMethodGet,
   classCheckPrivateStaticAccess, construct, createClass, defineEnumerableProperties,
   defineProperty, exportStar, assignAll, superGet, getPrototypeOf, inherits, instanceOf,
   interopRequireDefault, interopRequireWildcard, isNativeFunction, iterableToArray,
   iterableToArrayLimit, nonIterableRest, nonIterableSpread, objectDestructuringEmpty,
   objectSpread, objectSpreadProps, objectWithoutProperties, objectWithoutPropertiesLoose,
   possibleConstructorReturn, readOnlyError, superSet, setPrototypeOf, slicedToArray,
   superPropBase, taggedTemplateLiteral, toArray, toConsumableArray, toPrimitive,
   toPropertyKey, superUpdate, typeOf, unsupportedIterableToArray, wrapAsyncGenerator,
   wrapNativeSuper, writeOnlyError, isNativeReflectConstruct, tsDecorate, tsGenerator,
   tsMetadata, tsParam, tsValues, applyDecorators, identity]

/-- The name of a helper in a compiled file. -/
def name : Helper → String
  | arrayLikeToArray => "_array_like_to_array"
  | arrayWithHoles => "_array_with_holes"
  | arrayWithoutHoles => "_array_without_holes"
  | assertThisInitialized => "_assert_this_initialized"
  | asyncGenerator => "_async_generator"
  | asyncGeneratorDelegate => "_async_generator_delegate"
  | asyncIterator => "_async_iterator"
  | asyncToGenerator => "_async_to_generator"
  | awaitAsyncGenerator => "_await_async_generator"
  | awaitValue => "_await_value"
  | callSuper => "_call_super"
  | checkPrivateRedeclaration => "_check_private_redeclaration"
  | classApplyDescriptorDestructure => "_class_apply_descriptor_destructure"
  | classApplyDescriptorGet => "_class_apply_descriptor_get"
  | classApplyDescriptorSet => "_class_apply_descriptor_set"
  | classApplyDescriptorUpdate => "_class_apply_descriptor_update"
  | classCallCheck => "_class_call_check"
  | classCheckPrivateStaticDescriptor => "_class_check_private_static_field_descriptor"
  | classExtractFieldDescriptor => "_class_extract_field_descriptor"
  | classPrivateFieldGet => "_class_private_field_get"
  | classPrivateFieldInit => "_class_private_field_init"
  | classPrivateFieldSet => "_class_private_field_set"
  | classPrivateFieldUpdate => "_class_private_field_update"
  | classPrivateFieldDestructure => "_class_private_field_destructure"
  | classPrivateMethodGet => "_class_private_method_get"
  | classPrivateMethodInit => "_class_private_method_init"
  | classStaticPrivateFieldGet => "_class_static_private_field_spec_get"
  | classStaticPrivateFieldSet => "_class_static_private_field_spec_set"
  | classStaticPrivateFieldUpdate => "_class_static_private_field_update"
  | classStaticPrivateFieldDestructure => "_class_static_private_field_destructure"
  | classStaticPrivateMethodGet => "_class_static_private_method_get"
  | classCheckPrivateStaticAccess => "_class_check_private_static_access"
  | construct => "_construct"
  | createClass => "_create_class"
  | defineEnumerableProperties => "_define_enumerable_properties"
  | defineProperty => "_define_property"
  | exportStar => "_export_star"
  | assignAll => "_extends"
  | superGet => "_get"
  | getPrototypeOf => "_get_prototype_of"
  | inherits => "_inherits"
  | instanceOf => "_instanceof"
  | interopRequireDefault => "_interop_require_default"
  | interopRequireWildcard => "_interop_require_wildcard"
  | isNativeFunction => "_is_native_function"
  | iterableToArray => "_iterable_to_array"
  | iterableToArrayLimit => "_iterable_to_array_limit"
  | nonIterableRest => "_non_iterable_rest"
  | nonIterableSpread => "_non_iterable_spread"
  | objectDestructuringEmpty => "_object_destructuring_empty"
  | objectSpread => "_object_spread"
  | objectSpreadProps => "_object_spread_props"
  | objectWithoutProperties => "_object_without_properties"
  | objectWithoutPropertiesLoose => "_object_without_properties_loose"
  | possibleConstructorReturn => "_possible_constructor_return"
  | readOnlyError => "_read_only_error"
  | superSet => "_set"
  | setPrototypeOf => "_set_prototype_of"
  | slicedToArray => "_sliced_to_array"
  | superPropBase => "_super_prop_base"
  | taggedTemplateLiteral => "_tagged_template_literal"
  | toArray => "_to_array"
  | toConsumableArray => "_to_consumable_array"
  | toPrimitive => "_to_primitive"
  | toPropertyKey => "_to_property_key"
  | superUpdate => "_update"
  | typeOf => "_type_of"
  | unsupportedIterableToArray => "_unsupported_iterable_to_array"
  | wrapAsyncGenerator => "_wrap_async_generator"
  | wrapNativeSuper => "_wrap_native_super"
  | writeOnlyError => "_write_only_error"
  | isNativeReflectConstruct => "_is_native_reflect_construct"
  | tsDecorate => "_ts_decorate"
  | tsGenerator => "_ts_generator"
  | tsMetadata => "_ts_metadata"
  | tsParam => "_ts_param"
  | tsValues => "_ts_values"
  | applyDecorators => "_apply_decs_2203_r"
  | identity => "_identity"

end Helper

end ScriptHost
