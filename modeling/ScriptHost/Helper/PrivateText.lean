/-!
# Texts of helpers for private members

Functions that keep private members beside the objects that have them.
In these texts `⟨` and `⟩` stand for braces.
-/

namespace ScriptHost.Helper

/-- It refuses a private member that is there. -/
def checkPrivateRedeclarationText : String :=
  "function _check_private_redeclaration(obj, privateCollection) ⟨
     if (privateCollection.has(obj)) ⟨
       throw new TypeError('Cannot initialize the same private elements twice on an object');
     ⟩
   ⟩"

/-- It makes a private member a place to be assigned. -/
def classApplyDescriptorDestructureText : String :=
  "function _class_apply_descriptor_destructure(receiver, descriptor) ⟨
     if (descriptor.set) ⟨
       if (!('__destrObj' in descriptor)) ⟨
         descriptor.__destrObj = ⟨
           set value (v) ⟨
             descriptor.set.call(receiver, v);
           ⟩
         ⟩;
       ⟩
       return descriptor.__destrObj;
     ⟩ else ⟨
       if (!descriptor.writable) ⟨
         throw new TypeError('attempted to set read only private field');
       ⟩
       return descriptor;
     ⟩
   ⟩"

/-- It reads a private member. -/
def classApplyDescriptorGetText : String :=
  "function _class_apply_descriptor_get(receiver, descriptor) ⟨
     if (descriptor.get) ⟨
       return descriptor.get.call(receiver);
     ⟩
     return descriptor.value;
   ⟩"

/-- It writes a private member. -/
def classApplyDescriptorSetText : String :=
  "function _class_apply_descriptor_set(receiver, descriptor, value) ⟨
     if (descriptor.set) ⟨
       descriptor.set.call(receiver, value);
     ⟩ else ⟨
       if (!descriptor.writable) ⟨
         throw new TypeError('attempted to set read only private field');
       ⟩
       descriptor.value = value;
     ⟩
   ⟩"

/-- It makes a private member a place to be read and written. -/
def classApplyDescriptorUpdateText : String :=
  "function _class_apply_descriptor_update(receiver, descriptor) ⟨
     if (descriptor.set) ⟨
       if (!descriptor.get) ⟨
         throw new TypeError('attempted to read set only private field');
       ⟩
       if (!('__destrWrapper' in descriptor)) ⟨
         descriptor.__destrWrapper = ⟨
           set value (v)⟨
             descriptor.set.call(receiver, v);
           ⟩,
           get value () ⟨
             return descriptor.get.call(receiver);
           ⟩
         ⟩;
       ⟩
       return descriptor.__destrWrapper;
     ⟩ else ⟨
       if (!descriptor.writable) ⟨
         throw new TypeError('attempted to set read only private field');
       ⟩
       return descriptor;
     ⟩
   ⟩"

/-- It refuses a private static field that is not there yet. -/
def classCheckPrivateStaticDescriptorText : String :=
  "function _class_check_private_static_field_descriptor(descriptor, action) ⟨
     if (descriptor === undefined) ⟨
       throw new TypeError('attempted to ' + action + ' private static field before its declaration');
     ⟩
   ⟩"

/-- It finds a private member. -/
def classExtractFieldDescriptorText : String :=
  "function _class_extract_field_descriptor(receiver, privateMap, action) ⟨
     if (!privateMap.has(receiver)) ⟨
       throw new TypeError('attempted to ' + action + ' private field on non-instance');
     ⟩
     return privateMap.get(receiver);
   ⟩"

/-- It reads a private field. -/
def classPrivateFieldGetText : String :=
  "function _class_private_field_get(receiver, privateMap) ⟨
     var descriptor = _class_extract_field_descriptor(receiver, privateMap, 'get');
     return _class_apply_descriptor_get(receiver, descriptor);
   ⟩"

/-- It makes a private field. -/
def classPrivateFieldInitText : String :=
  "function _class_private_field_init(obj, privateMap, value) ⟨
     _check_private_redeclaration(obj, privateMap);
     privateMap.set(obj, value);
   ⟩"

/-- It writes a private field. -/
def classPrivateFieldSetText : String :=
  "function _class_private_field_set(receiver, privateMap, value) ⟨
     var descriptor = _class_extract_field_descriptor(receiver, privateMap, 'set');
     _class_apply_descriptor_set(receiver, descriptor, value);
     return value;
   ⟩"

/-- It changes a private field by one. -/
def classPrivateFieldUpdateText : String :=
  "function _class_private_field_update(receiver, privateMap) ⟨
     var descriptor = _class_extract_field_descriptor(receiver, privateMap, 'update');
     return _class_apply_descriptor_update(receiver, descriptor);
   ⟩"

/-- It lets a pattern write a private field. -/
def classPrivateFieldDestructureText : String :=
  "function _class_private_field_destructure(receiver, privateMap) ⟨
     var descriptor = _class_extract_field_descriptor(receiver, privateMap, 'set');
     return _class_apply_descriptor_destructure(receiver, descriptor);
   ⟩"

/-- It reads a private method. -/
def classPrivateMethodGetText : String :=
  "function _class_private_method_get(receiver, privateSet, fn) ⟨
     if (!privateSet.has(receiver)) ⟨
       throw new TypeError('attempted to get private field on non-instance');
     ⟩
     return fn;
   ⟩"

/-- It makes a private method. -/
def classPrivateMethodInitText : String :=
  "function _class_private_method_init(obj, privateSet) ⟨
     _check_private_redeclaration(obj, privateSet);
     privateSet.add(obj);
   ⟩"

/-- It reads a private static field. -/
def classStaticPrivateFieldGetText : String :=
  "function _class_static_private_field_spec_get(receiver, classConstructor, descriptor) ⟨
     _class_check_private_static_access(receiver, classConstructor);
     _class_check_private_static_field_descriptor(descriptor, 'get');
     return _class_apply_descriptor_get(receiver, descriptor);
   ⟩"

/-- It writes a private static field. -/
def classStaticPrivateFieldSetText : String :=
  "function _class_static_private_field_spec_set(receiver, classConstructor, descriptor, value) ⟨
     _class_check_private_static_access(receiver, classConstructor);
     _class_check_private_static_field_descriptor(descriptor, 'set');
     _class_apply_descriptor_set(receiver, descriptor, value);
     return value;
   ⟩"

/-- It changes a private static field by one. -/
def classStaticPrivateFieldUpdateText : String :=
  "function _class_static_private_field_update(receiver, classConstructor, descriptor) ⟨
     _class_check_private_static_access(receiver, classConstructor);
     _class_check_private_static_field_descriptor(descriptor, 'update');
     return _class_apply_descriptor_update(receiver, descriptor);
   ⟩"

/-- It lets a pattern write a private static field. -/
def classStaticPrivateFieldDestructureText : String :=
  "function _class_static_private_field_destructure(receiver, classConstructor, descriptor) ⟨
     _class_check_private_static_access(receiver, classConstructor);
     _class_check_private_static_field_descriptor(descriptor, 'set');
     return _class_apply_descriptor_destructure(receiver, descriptor);
   ⟩"

/-- It reads a private static method. -/
def classStaticPrivateMethodGetText : String :=
  "function _class_static_private_method_get(receiver, classConstructor, method) ⟨
     _class_check_private_static_access(receiver, classConstructor);
     return method;
   ⟩"

/-- It refuses a private member of another class. -/
def classCheckPrivateStaticAccessText : String :=
  "function _class_check_private_static_access(receiver, classConstructor) ⟨
     if (receiver !== classConstructor) ⟨
       throw new TypeError('Private static access of wrong provenance');
     ⟩
   ⟩"

/-- It refuses to write what can only be read. -/
def readOnlyErrorText : String :=
  "function _read_only_error(name) ⟨
     throw new TypeError('\"' + name + '\" is read-only');
   ⟩"

/-- It refuses to read what can only be written. -/
def writeOnlyErrorText : String :=
  "function _write_only_error(name) ⟨
     throw new TypeError('\"' + name + '\" is write-only');
   ⟩"

end ScriptHost.Helper
